import Plotline.Proofs.Fitting.LargerPlots

/-!
# Instructions that no template can take

An instruction is oversized on a plot when it does not fit an empty template and cannot be cut so
that it does: it is an action or a call, or the shell of a bracket leaves too little room for the
calls that cut bodies end with. While other instructions follow, a slot is kept free behind it.

Fitting gives up on an instruction only if it is oversized, and a program with an oversized
instruction, at any depth, does not fit (`fit_eq_error_of_oversized`). The two directions follow the
two descriptions of a run. A fault names an instruction that stands in the unit with the same
instructions behind it as in the list that was being packed. In a run that succeeds, every body of
every bracket could be packed on its own (`Packs.within`): a bracket that stays whole is lighter
than a template, and so is what a cut keeps of a body.
-/

namespace Plotline

open Instruction

/-- No template of `c` slots can take the instruction while `rest` follows, neither whole nor
cut. -/
def Oversized (c : Nat) (node : Instruction) (rest : List Instruction) : Prop :=
  c < 1 + node.weight + reserve rest ∧
    match node with
    | .action _ | .call _ => True
    | .bracket _ setup _ other => c < 1 + shellWeight setup other + linkSlots other + reserve rest

instance (c : Nat) (node : Instruction) (rest : List Instruction) :
    Decidable (Oversized c node rest) :=
  match node with
  | .action _ | .call _ => inferInstanceAs (Decidable (_ ∧ True))
  | .bracket .. => inferInstanceAs (Decidable (_ ∧ _ < _))

theorem oversized_bracket {c : Nat} {head : Head} {setup body : List Instruction}
    {other : Option (List Instruction)} {rest : List Instruction} :
    Oversized c (bracket head setup body other) rest ↔
      c < 1 + (bracket head setup body other).weight + reserve rest ∧
        c < 1 + shellWeight setup other + linkSlots other + reserve rest := Iff.rfl

/-- Some instruction of the program is oversized, in the body of a unit or in a body of a bracket at
any depth. -/
def Program.HasOversized (P : Program) (c : Nat) : Prop :=
  ∃ unit ∈ P.units, ∃ node rest, Within (node :: rest) unit.body ∧ Oversized c node rest

/-! ## Nothing oversized can be packed -/

section

variable {c : Nat}

theorem Packs.not_oversized {node : Instruction} {rest : List Instruction}
    (h : Packs c (node :: rest)) : ¬ Oversized c node rest := by
  intro hover
  cases h with
  | fits hfit _ =>
    have hheavy := hover.1
    omega
  | cut hcuts _ =>
    obtain ⟨-, hnarrow⟩ := oversized_bracket.mp hover
    cases hcuts with
    | single hroom _ =>
      rw [show linkSlots none = 1 from rfl] at hnarrow
      omega
    | double hroom _ _ =>
      rw [show ∀ other, linkSlots (some other) = 2 from fun _ => rfl] at hnarrow
      omega

/-- The bodies of a bracket that can be packed can be packed on their own. -/
theorem Packs.bodies {head : Head} {setup body : List Instruction}
    {other : Option (List Instruction)} {rest : List Instruction}
    (h : Packs c (bracket head setup body other :: rest)) :
    Packs c body ∧ ∀ is, other = some is → Packs c is := by
  cases h with
  | fits hfit _ =>
    rw [weight_bracket] at hfit
    refine ⟨packs_of_weightAll_lt (by omega), ?_⟩
    rintro is rfl
    rw [elseWeight] at hfit
    exact packs_of_weightAll_lt (by omega)
  | cut hcuts _ =>
    cases hcuts with
    | single hroom hbody =>
      refine ⟨hbody.packs (by omega), ?_⟩
      rintro is hnone
      cases hnone
    | double hroom hbody hother =>
      refine ⟨hbody.packs (by omega), ?_⟩
      rintro is hsome
      cases hsome
      exact hother.packs (by omega)

/-- What stands in instructions that can be packed, at any depth, can be packed. -/
theorem Packs.within {is js : List Instruction} (h : Packs c js) (hwithin : Within is js) :
    Packs c is := by
  induction hwithin with
  | refl => exact h
  | next _ ih => exact ih h.tail
  | body _ ih => exact ih h.bodies.1
  | otherwise _ ih => exact ih (h.bodies.2 _ rfl)

end

/-! ## Faults name what is oversized -/

/-- If the fault is that an instruction cannot be placed, then it names one of `is` that is
oversized. -/
def NamesOversized (p : Plot) (is : List Instruction) (e : FittingError) : Prop :=
  ∀ unit construct capacity, e = .unsplittable unit construct capacity →
    ∃ node rest, Within (node :: rest) is ∧ Oversized p.capacity node rest ∧
      e = .unsplittable p.unit node.describe p.capacity

theorem NamesOversized.within {p : Plot} {is js : List Instruction} {e : FittingError}
    (h : NamesOversized p is e) (hwithin : ∀ ks, Within ks is → Within ks js) :
    NamesOversized p js e := by
  intro unit construct capacity he
  obtain ⟨node, rest, hin, hnode⟩ := h unit construct capacity he
  exact ⟨node, rest, hwithin _ hin, hnode⟩

/-- The first of the instructions is the one that is named. -/
theorem namesOversized_head {p : Plot} {node : Instruction} {rest : List Instruction}
    (h : Oversized p.capacity node rest) :
    NamesOversized p (node :: rest) (.unsplittable p.unit node.describe p.capacity) :=
  fun _ _ _ _ => ⟨node, rest, .refl, h, rfl⟩

theorem namesOversized_steps (p : Plot) :
    FaultSteps p (NamesOversized p)
      (fun head setup body other available e => ∀ rest,
        available = p.capacity - (1 + reserve rest) →
        p.capacity < 1 + (bracket head setup body other).weight + reserve rest →
        NamesOversized p (bracket head setup body other :: rest) e)
      (fun _ body _ e => NamesOversized p body e) where
  later {node rest e} ih := ih.within fun ks => .next
  simple {node rest} hnode hfull := by
    apply namesOversized_head
    cases node with
    | action a => exact ⟨hfull, trivial⟩
    | call c => exact ⟨hfull, trivial⟩
    | bracket head setup body other => exact (hnode head setup body other rfl).elim
  cut {head setup body other rest e} hfull hb := hb rest rfl hfull
  narrow {head setup body other available} hshell := by
    intro rest havailable hfull
    -- the bracket was offered what an empty template leaves
    have hover : Oversized p.capacity (bracket head setup body other) rest :=
      oversized_bracket.mpr ⟨hfull, by omega⟩
    exact namesOversized_head hover
  single {head setup body available e} _ hb := by
    intro rest _ _
    exact hb.within fun ks => .body
  double {head setup body other available e} _ hb := by
    intro rest _ _
    exact hb.within fun ks => .body
  otherwise {head setup body other available e} _ ho := by
    intro rest _ _
    exact ho.within fun ks => .otherwise
  exit {head body budget exit} _ _ := by
    intro unit construct capacity he
    cases he
  split {head body budget e} _ _ ih := by
    refine ih.within fun ks hks => ?_
    rw [← keep_append budget body]
    exact hks.append _

/-- A program in which an instruction could not be placed has an oversized one, which the fault
names together with its unit and the slots of the plot. -/
theorem Program.exists_oversized {P : Program} {capacity : Nat} {unit construct : String} {c : Nat}
    (h : P.fit capacity = .error (.unsplittable unit construct c)) :
    c = capacity ∧ ∃ u ∈ P.units, u.name = unit ∧ ∃ node rest, Within (node :: rest) u.body ∧
      Oversized capacity node rest ∧ node.describe = construct := by
  obtain ⟨u, hu, hfault⟩ := Program.exists_of_fit_eq_error h
  obtain ⟨node, rest, hin, hnode, he⟩ :=
    (namesOversized_steps ⟨capacity, u.name⟩).fit hfault unit construct c rfl
  obtain ⟨rfl, rfl, rfl⟩ := FittingError.unsplittable.inj he
  exact ⟨rfl, u, hu, rfl, node, rest, hin, hnode, rfl⟩

/-- **Oversized instructions.** Fitting a program without oversized instructions never gives up on
an instruction, and a program with an oversized one does not fit. -/
theorem fit_eq_error_of_oversized (P : Program) (capacity : Nat) :
    (¬ P.HasOversized capacity → ∀ unit construct c,
        P.fit capacity ≠ .error (.unsplittable unit construct c)) ∧
      (P.HasOversized capacity → ∃ e, P.fit capacity = .error e) := by
  constructor
  · intro hnone unit construct c h
    obtain ⟨-, u, hu, -, node, rest, hin, hnode, -⟩ := Program.exists_oversized h
    exact hnone ⟨u, hu, node, rest, hin, hnode⟩
  · rintro ⟨unit, hunit, node, rest, hin, hnode⟩
    cases hfit : P.fit capacity with
    | error e => exact ⟨e, rfl⟩
    | ok out =>
      have hunits : List.Forall₂ (flip (Template.FittedTo capacity)) out.units P.units :=
        (Program.units_of_fit hfit).flip
      obtain ⟨u, -, ts, hts, -⟩ := exists_of_mem_right hunits hunit
      exact absurd hnode ((packs_of_fit hts).within hin).not_oversized

/-- With six slots the branch in the loop is oversized, while the loop itself could be cut. What is
reported is that cutting the loop would move an exit. -/
theorem oversized_sample :
    (Sample.program.HasOversized 6 ∧ ∃ e, Sample.program.fit 6 = .error e) ∧
      Sample.program.fit 6 = .error (.splitExit "event.Join" "repeat Forever" .stop) := by
  have hover : Sample.program.HasOversized 6 :=
    ⟨_, List.mem_cons_self, _, _, .body (.next .refl), by decide⟩
  exact ⟨⟨hover, (fit_eq_error_of_oversized Sample.program 6).2 hover⟩, by cbv⟩

end Plotline
