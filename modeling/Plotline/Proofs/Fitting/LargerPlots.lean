import Plotline.Fitting.Tier
import Plotline.Proofs.Fitting.Fault

/-!
# Larger plots

A larger plot may reject a program that a smaller one accepts. The body of a bracket takes as many
slots as it can, and the else body gets what is left. With a few slots more, one more instruction of
the body fits, and if that is a heavy one, the else body is left with less than before. When it has
to be cut then and its end holds an exit, the bracket is rejected: `larger_plot_rejects` is a
function that a basic plot accepts and a large one does not.

`fit_or_squeezed_of_le` says that nothing else goes wrong. A program that a smaller plot accepts is
accepted by a larger one, unless a bracket leaves less room for its else body on the larger plot
than on the smaller one, and an exit in the else body stands behind that room. In particular every
instruction that can be placed on a smaller plot can be placed on a larger one.
-/

namespace Plotline

open Instruction

/-! ## Cutting a body with more slots -/

/-- With more slots, less of a body moves away. -/
theorem keep_suffix {budget budget' : Nat} (h : budget ≤ budget') (is : List Instruction) :
    (keep budget' is).2 <:+ (keep budget is).2 := by
  induction is generalizing budget budget' with
  | nil => exact List.suffix_refl _
  | cons i is ih =>
    by_cases hfit : i.weight + 1 ≤ budget
    · have hfit' : i.weight + 1 ≤ budget' := by omega
      simp only [keep, hfit, hfit', if_true]
      exact ih (by omega)
    · have hkept : (keep budget (i :: is)).2 = i :: is := by simp only [keep, hfit, if_false]
      rw [hkept]
      exact ⟨_, keep_append budget' (i :: is)⟩

/-- The end of instructions has no more exits than all of them. -/
theorem escapingExitAll?_suffix {inLoop : Bool} {is js : List Instruction} (hsuffix : js <:+ is)
    (h : escapingExitAll? inLoop is = none) : escapingExitAll? inLoop js = none := by
  obtain ⟨front, rfl⟩ := hsuffix
  induction front with
  | nil => exact h
  | cons i front ih =>
    apply ih
    rw [List.cons_append, escapingExitAll?] at h
    split at h
    · cases h
    · exact h

/-! ## What can be packed -/

mutual

/-- The instructions can be packed into templates of `c` slots. -/
inductive Packs (c : Nat) : List Instruction → Prop
  | nil : Packs c []
  | fits {node : Instruction} {rest : List Instruction} :
    1 + node.weight + reserve rest ≤ c → Packs c rest → Packs c (node :: rest)
  | cut {head : Head} {setup body : List Instruction} {other : Option (List Instruction)}
    {rest : List Instruction} : Cuts c (c - (1 + reserve rest)) setup body other →
    Packs c rest → Packs c (bracket head setup body other :: rest)

/-- A bracket can be cut to `available` slots. -/
inductive Cuts (c : Nat) : Nat → List Instruction → List Instruction →
    Option (List Instruction) → Prop
  | single {available : Nat} {setup body : List Instruction} :
    shellWeight setup none + 1 ≤ available →
    Splits c (available - shellWeight setup none) body → Cuts c available setup body none
  | double {available : Nat} {setup body other : List Instruction} :
    shellWeight setup (some other) + 2 ≤ available →
    Splits c (available - shellWeight setup (some other) - 1) body →
    Splits c (available - shellWeight setup (some other) -
      cutWeight (available - shellWeight setup (some other) - 1) body) other →
    Cuts c available setup body (some other)

/-- A body can be cut to `budget` slots. -/
inductive Splits (c : Nat) : Nat → List Instruction → Prop
  | whole {budget : Nat} {body : List Instruction} : weightAll body ≤ budget → Splits c budget body
  | split {budget : Nat} {body : List Instruction} :
    escapingExitAll? false (keep budget body).2 = none → Packs c (keep budget body).2 →
    Splits c budget body

end

theorem packs_steps (p : Plot) :
    RunSteps p
      (fun _ _ nodes _ => Packs p.capacity nodes)
      (fun _ setup body other available _ _ => Cuts p.capacity available setup body other)
      (fun _ body budget _ b => Splits p.capacity budget body ∧
        weightAll b.kept = cutWeight budget body) where
  done _ _ := .nil
  take {placed n node rest c} hfit ih := .fits (by omega) ih
  spill _ _ ih := ih
  cut _ hb ih := .cut hb ih
  single hroom hb := .single hroom hb.1
  double {head setup body other available n b o} hroom hb ho := by
    rw [hb.2] at ho
    exact .double hroom hb.1 ho.1
  whole {head body budget n} hfit := by
    refine ⟨.whole hfit, ?_⟩
    rw [cutWeight, if_pos hfit]
  split {head body budget n c} hheavy hexit ih := by
    refine ⟨.split hexit ih, ?_⟩
    rw [cutWeight, if_neg (Nat.not_le.mpr hheavy), Plot.linked, weightAll_append_link]

theorem packs_of_fit {capacity : Nat} {unit : Template} {ts : List Template}
    (h : fit capacity unit = .ok ts) : Packs capacity unit.body := by
  obtain ⟨-, -, hpacks⟩ := (packs_steps ⟨capacity, unit.name⟩).fit h
  exact hpacks

section

variable {c : Nat}

theorem Packs.tail {i : Instruction} {is : List Instruction} (h : Packs c (i :: is)) :
    Packs c is := by
  cases h with
  | fits _ hrest => exact hrest
  | cut _ hrest => exact hrest

theorem Packs.suffix {is js : List Instruction} (h : Packs c is) (hsuffix : js <:+ is) :
    Packs c js := by
  obtain ⟨front, rfl⟩ := hsuffix
  induction front with
  | nil => exact h
  | cons i front ih => exact ih h.tail

/-- What fits one template can be packed. -/
theorem packs_of_weightAll_lt {is : List Instruction} (h : weightAll is + 1 ≤ c) :
    Packs c is := by
  induction is with
  | nil => exact .nil
  | cons i is ih =>
    rw [weightAll] at h
    refine .fits ?_ (ih (by omega))
    cases is with
    | nil => simp [reserve]; omega
    | cons j is =>
      have := weight_pos j
      rw [weightAll] at h
      rw [reserve_cons]
      omega

/-- The part of a body that is kept could be packed as well. -/
theorem packs_of_keep {budget : Nat} (hbudget : budget + 1 ≤ c) {is : List Instruction}
    (h : Packs c (keep budget is).2) : Packs c is := by
  induction is generalizing budget with
  | nil => exact .nil
  | cons i is ih =>
    rw [keep] at h
    split at h
    · rename_i hfit
      refine .fits ?_ (ih (by omega) h)
      have := reserve_le is
      omega
    · exact h

theorem Splits.packs {budget : Nat} {body : List Instruction} (h : Splits c budget body)
    (hbudget : budget + 1 ≤ c) : Packs c body := by
  cases h with
  | whole hfit => exact packs_of_weightAll_lt (by omega)
  | split _ hrest => exact packs_of_keep hbudget hrest

/-- With more slots, cutting a body moves no exit that it did not move before. -/
theorem Splits.no_exit {budget budget' : Nat} {body : List Instruction} (h : Splits c budget body)
    (hle : budget ≤ budget') (hheavy : budget' < weightAll body) :
    escapingExitAll? false (keep budget' body).2 = none := by
  cases h with
  | whole hfit => omega
  | split hexit _ => exact escapingExitAll?_suffix (keep_suffix hle body) hexit

end

/-! ## Brackets that leave less room -/

/-- `is` are the instructions from some place on in `js`, or in a body of a bracket in `js`, at any
depth. -/
inductive Within (is : List Instruction) : List Instruction → Prop
  | refl : Within is is
  | next {j : Instruction} {js : List Instruction} : Within is js → Within is (j :: js)
  | body {head : Head} {setup body : List Instruction} {other : Option (List Instruction)}
    {js : List Instruction} : Within is body → Within is (bracket head setup body other :: js)
  | otherwise {head : Head} {setup body other js : List Instruction} : Within is other →
    Within is (bracket head setup body (some other) :: js)

theorem Within.append {is js : List Instruction} (h : Within is js) (front : List Instruction) :
    Within is (front ++ js) := by
  induction front with
  | nil => exact h
  | cons i front ih => exact .next ih

/-- The slots for the else body of a bracket at the beginning of a template, while `rest`
follows. -/
def elseRoom (c : Nat) (setup body other rest : List Instruction) : Nat :=
  c - (1 + reserve rest) - shellWeight setup (some other) -
    cutWeight (c - (1 + reserve rest) - shellWeight setup (some other) - 1) body

/-- The fault of a unit that fits a plot of `c` slots, but none of `c'`: a bracket leaves less room
for its else body, which has to be cut there, and an exit would be moved. -/
def Squeezed (c c' : Nat) (unit : String) (is : List Instruction) (e : FittingError) : Prop :=
  ∃ head setup body other rest exit,
    Within (bracket head setup body (some other) :: rest) is ∧
      elseRoom c' setup body other rest < elseRoom c setup body other rest ∧
      elseRoom c' setup body other rest < weightAll other ∧
      escapingExitAll? false (keep (elseRoom c' setup body other rest) other).2 = some exit ∧
      e = .splitExit unit head.describe exit

theorem Squeezed.within {c c' : Nat} {unit : String} {is js : List Instruction} {e : FittingError}
    (h : Squeezed c c' unit is e) (hwithin : ∀ ks, Within ks is → Within ks js) :
    Squeezed c c' unit js e := by
  obtain ⟨head, setup, body, other, rest, exit, hin, hexit⟩ := h
  exact ⟨head, setup, body, other, rest, exit, hwithin _ hin, hexit⟩

/-- The fault of a body that is cut to `budget` slots of the plot `p`: an exit would move, or the
fault lies deeper, which the smaller plot of `c` slots excludes unless there is too little room. -/
def BodyFault (p : Plot) (c : Nat) (head : Head) (body : List Instruction) (budget : Nat)
    (e : FittingError) : Prop :=
  (∃ exit, budget < weightAll body ∧ escapingExitAll? false (keep budget body).2 = some exit ∧
    e = .splitExit p.unit head.describe exit) ∨
  (Packs c body → Squeezed c p.capacity p.unit body e)

/-- With at least as many slots for a body as on the smaller plot, the fault lies deeper. -/
theorem BodyFault.squeezed {p : Plot} {c : Nat} {head : Head} {body : List Instruction}
    {budget budget' : Nat} {e : FittingError} (h : BodyFault p c head body budget' e)
    (hsplits : Splits c budget body) (hle : budget ≤ budget') (hbudget : budget + 1 ≤ c) :
    Squeezed c p.capacity p.unit body e := by
  rcases h with ⟨exit, hheavy, hexit, -⟩ | h
  · rw [hsplits.no_exit hle hheavy] at hexit
    cases hexit
  · exact h (hsplits.packs hbudget)

/-- The way to a fault on the larger plot `p`, along instructions that the smaller one accepts. -/
theorem squeezed_steps {p : Plot} {c : Nat} (hle : c ≤ p.capacity) :
    FaultSteps p
      (fun nodes e => Packs c nodes → Squeezed c p.capacity p.unit nodes e)
      (fun head setup body other available e => ∀ rest,
        available = p.capacity - (1 + reserve rest) →
        Cuts c (c - (1 + reserve rest)) setup body other →
        Squeezed c p.capacity p.unit (bracket head setup body other :: rest) e)
      (BodyFault p c) where
  later {node rest e} ih := by
    intro hpacks
    exact (ih hpacks.tail).within fun ks => .next
  simple {node rest} hnode hfull := by
    intro hpacks
    cases hpacks with
    | fits hfit _ => omega
    | cut _ _ => exact (hnode _ _ _ _ rfl).elim
  cut {head setup body other rest e} hfull hb := by
    intro hpacks
    cases hpacks with
    | fits hfit _ => omega
    | cut hcuts _ => exact hb rest rfl hcuts
  narrow {head setup body other available} hshell := by
    intro rest havailable hcuts
    cases hcuts with
    | single hroom _ =>
      rw [show linkSlots none = 1 from rfl] at hshell
      omega
    | double hroom _ _ =>
      rw [show ∀ other, linkSlots (some other) = 2 from fun _ => rfl] at hshell
      omega
  single {head setup body available e} hroom hb := by
    intro rest havailable hcuts
    obtain ⟨hroom', hsplits⟩ : shellWeight setup none + 1 ≤ c - (1 + reserve rest) ∧
        Splits c (c - (1 + reserve rest) - shellWeight setup none) body := by
      cases hcuts with
      | single hroom' hsplits => exact ⟨hroom', hsplits⟩
    exact (hb.squeezed hsplits (by omega) (by omega)).within fun ks => .body
  double {head setup body other available e} hroom hb := by
    intro rest havailable hcuts
    obtain ⟨hroom', hsplits⟩ : shellWeight setup (some other) + 2 ≤ c - (1 + reserve rest) ∧
        Splits c (c - (1 + reserve rest) - shellWeight setup (some other) - 1) body := by
      cases hcuts with
      | double hroom' hsplits _ => exact ⟨hroom', hsplits⟩
    exact (hb.squeezed hsplits (by omega) (by omega)).within fun ks => .body
  otherwise {head setup body other available e} hroom ho := by
    intro rest havailable hcuts
    obtain ⟨hroom', hsplits⟩ : shellWeight setup (some other) + 2 ≤ c - (1 + reserve rest) ∧
        Splits c (elseRoom c setup body other rest) other := by
      cases hcuts with
      | double hroom' _ hsplits => exact ⟨hroom', hsplits⟩
    subst havailable
    have hbudget : elseRoom c setup body other rest + 1 ≤ c := by
      unfold elseRoom
      omega
    by_cases hroom'' : elseRoom c setup body other rest ≤ elseRoom p.capacity setup body other rest
    · exact (ho.squeezed hsplits hroom'' hbudget).within fun ks => .otherwise
    · rcases ho with ⟨exit, hheavy, hexit, he⟩ | ho
      · exact ⟨head, setup, body, other, rest, exit, .refl, Nat.lt_of_not_le hroom'', hheavy, hexit,
          he⟩
      · exact (ho (hsplits.packs hbudget)).within fun ks => .otherwise
  exit {head body budget exit} hheavy hexit := Or.inl ⟨exit, hheavy, hexit, rfl⟩
  split {head body budget e} _ _ ih := by
    refine Or.inr fun hpacks => ?_
    have hsuffix : (keep budget body).2 <:+ body := ⟨_, keep_append budget body⟩
    refine (ih (hpacks.suffix hsuffix)).within fun ks hks => ?_
    rw [← keep_append budget body]
    exact hks.append _

/-- **Larger plots.** A program that fits a plot fits every larger one, unless a bracket leaves
less room for its else body there, so that cutting the else body would move an exit. -/
theorem fit_or_squeezed_of_le {P : Program} {c c' : Nat} {out : FittedProgram} (hle : c ≤ c')
    (h : P.fit c = .ok out) :
    (∃ out', P.fit c' = .ok out') ∨
      ∃ e, P.fit c' = .error e ∧ ∃ unit ∈ P.units, Squeezed c c' unit.name unit.body e := by
  cases hfit : P.fit c' with
  | ok out' => exact Or.inl ⟨out', rfl⟩
  | error e =>
    obtain ⟨unit, hunit, hfault⟩ := Program.exists_of_fit_eq_error hfit
    have hunits : List.Forall₂ (flip (Template.FittedTo c)) out.units P.units :=
      (Program.units_of_fit h).flip
    obtain ⟨u, -, ts, hts, -⟩ := exists_of_mem_right hunits hunit
    have hsqueezed := (squeezed_steps (p := ⟨c', unit.name⟩) hle).fit hfault (packs_of_fit hts)
    exact Or.inr ⟨e, rfl, unit, hunit, hsqueezed⟩

namespace Sample

/-- A loop too heavy for a basic plot, beside an else body that ends with a return. -/
def choosing : Program :=
  ⟨[⟨.function "f" [] false,
    [sneaking [] [forever (List.replicate 57 (control "Wait"))]
      (some (List.replicate 39 (control "Wait") ++ [control "Return"]))]⟩]⟩

/-- On a basic plot the loop moves away, and the else body stays whole. -/
def choosingBasic : FittedProgram :=
  ⟨[⟨"f",
    [⟨.function "f" [] false,
        [sneaking [] [.call (.link "f~1")]
          (some (List.replicate 39 (control "Wait") ++ [control "Return"]))]⟩,
      ⟨.continuation "f~1", [forever (List.replicate 45 (control "Wait") ++
        [.call (.link "f~2")])]⟩,
      ⟨.continuation "f~2", List.replicate 12 (control "Wait")⟩], []⟩], []⟩

theorem choosing_fit_basic : choosing.fit Tier.basic.capacity = .ok choosingBasic := by
  cbv

/-- On a large plot the loop stays, and the else body has too little room. -/
theorem choosing_fit_large : choosing.fit Tier.large.capacity =
    .error (.splitExit "f" "if_player IsSneaking" .leave) := by
  cbv

end Sample

/-- On the larger plot the else body has 33 slots for its 40, on the smaller one 42. -/
theorem fit_or_squeezed_sample :
    (50 ≤ 100 ∧ Sample.choosing.fit 50 = .ok Sample.choosingBasic) ∧
      ((∃ out', Sample.choosing.fit 100 = .ok out') ∨
        ∃ e, Sample.choosing.fit 100 = .error e ∧
          ∃ unit ∈ Sample.choosing.units, Squeezed 50 100 unit.name unit.body e) :=
  ⟨⟨by decide, Sample.choosing_fit_basic⟩,
    fit_or_squeezed_of_le (by decide) Sample.choosing_fit_basic⟩

/-- A large plot rejects a program that a basic one accepts. -/
theorem larger_plot_rejects :
    ¬ ∀ (P : Program) (c c' : Nat), c ≤ c' → (∃ out, P.fit c = .ok out) →
      ∃ out', P.fit c' = .ok out' := by
  intro hall
  obtain ⟨out', hout'⟩ := hall Sample.choosing Tier.basic.capacity Tier.large.capacity
    (by decide) ⟨_, Sample.choosing_fit_basic⟩
  rw [Sample.choosing_fit_large] at hout'
  cases hout'

end Plotline
