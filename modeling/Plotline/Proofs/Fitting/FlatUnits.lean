import Mathlib.Algebra.Order.Floor.Div
import Mathlib.GroupTheory.GroupAction.Ring
import Plotline.Proofs.Fitting.Fault

/-!
# Units without brackets

The instructions of a unit without brackets take one slot each. A template of `c` slots that is not
the last one of the unit holds `c - 2` of them, next to its header and the call of the next
template, and the last template holds one more. So `k` templates have room for `k * (c - 2) + 1`
instructions.

`length_templates_of_flat` says that fitting takes no more templates than needed: their number is
the least `k` for which `k` linked templates of at most `c` slots can hold as many instructions. One
half is a bound on all linked templates (`weightAll_le_of_inSequence`), the other one a loop
invariant (`full_steps`): when a template is closed, so much has been placed that one template less
could not hold it.
-/

namespace Plotline

open Instruction

/-! ## Linked templates -/

/-- Templates that hold `is` one after the other, each of them but the last ending with a call of
the next one. -/
inductive InSequence : List Template → List Instruction → Prop
  | last (t : Template) : InSequence [t] t.body
  | link {header : Header} {kept is : List Instruction} {next : Template} {ts : List Template} :
    InSequence (next :: ts) is →
    InSequence (⟨header, kept ++ [.call (.link next.name)]⟩ :: next :: ts) (kept ++ is)

/-- What linked templates of `c` slots can hold. -/
theorem weightAll_le_of_inSequence {c : Nat} (hc : 2 ≤ c) {ts : List Template}
    {is : List Instruction} (h : InSequence ts is) (hfits : Fits c ts) :
    1 ≤ ts.length ∧ weightAll is ≤ ts.length * (c - 2) + 1 := by
  induction h with
  | last t =>
    obtain ⟨hweight, -⟩ := fits_cons.mp hfits
    rw [Template.weight] at hweight
    simp only [List.length_singleton]
    omega
  | @link header kept is next ts _ ih =>
    obtain ⟨hweight, hrest⟩ := fits_cons.mp hfits
    obtain ⟨-, hbound⟩ := ih hrest
    rw [Template.weight, weightAll_append, weightAll_singleton, weight] at hweight
    rw [weightAll_append, List.length_cons, Nat.succ_mul]
    omega

theorem length_le_weightAll (is : List Instruction) : is.length ≤ weightAll is := by
  induction is with
  | nil => exact Nat.le_refl 0
  | cons i is ih =>
    have := weight_pos i
    rw [List.length_cons, weightAll]
    omega

/-! ## Instructions without brackets -/

def Instruction.isBracket : Instruction → Bool
  | .action _ | .call _ => false
  | .bracket .. => true

/-- The instructions are actions and calls. -/
def Flat (is : List Instruction) : Prop := ∀ i ∈ is, i.isBracket = false

instance (is : List Instruction) : Decidable (Flat is) :=
  inferInstanceAs (Decidable (∀ i ∈ is, _))

theorem flat_cons {i : Instruction} {is : List Instruction} :
    Flat (i :: is) ↔ i.isBracket = false ∧ Flat is := List.forall_mem_cons

theorem not_flat_bracket {head : Head} {setup body : List Instruction}
    {other : Option (List Instruction)} {is : List Instruction} :
    ¬ Flat (bracket head setup body other :: is) := by
  intro hflat
  cases (flat_cons.mp hflat).1

theorem weight_of_flat {i : Instruction} {is : List Instruction} (h : Flat (i :: is)) :
    i.weight = 1 := by
  cases i with
  | action a => rfl
  | call c => rfl
  | bracket head setup body other => exact absurd h not_flat_bracket

theorem weightAll_of_flat {is : List Instruction} (h : Flat is) : weightAll is = is.length := by
  induction is with
  | nil => rfl
  | cons i is ih =>
    rw [weightAll, weight_of_flat h, ih (flat_cons.mp h).2, List.length_cons, Nat.add_comm]

/-! ## Runs over instructions without brackets -/

/-- A fault needs a bracket: every other instruction fits an empty template. -/
theorem not_flat_steps {p : Plot} (hc : 3 ≤ p.capacity) :
    FaultSteps p (fun nodes _ => ¬ Flat nodes) (fun _ _ _ _ _ _ => True) (fun _ _ _ _ => True) where
  later ih := fun hflat => ih (flat_cons.mp hflat).2
  simple {node rest} _ hfull := by
    intro hflat
    have hweight := weight_of_flat hflat
    have hreserve := reserve_le rest
    omega
  cut _ _ := not_flat_bracket
  narrow _ := trivial
  single _ _ := trivial
  double _ _ := trivial
  otherwise _ _ := trivial
  exit _ _ := trivial
  split _ _ _ := trivial

theorem succeeds_of_flat {capacity : Nat} {unit : Template} (hc : 3 ≤ capacity)
    (hflat : Flat unit.body) : ∃ ts, fit capacity unit = .ok ts := by
  cases hfit : fit capacity unit with
  | ok ts => exact ⟨ts, rfl⟩
  | error e => exact absurd hflat ((not_flat_steps (p := ⟨capacity, unit.name⟩) hc).fit hfit)

/-- A run leaves linked templates. -/
theorem inSequence_steps (p : Plot) :
    RunSteps p
      (fun placed _ nodes c => Flat nodes →
        ∀ header, InSequence (⟨header, c.kept⟩ :: c.templates) (placed ++ nodes))
      (fun _ _ _ _ _ _ _ => True) (fun _ _ _ _ _ => True) where
  done placed n := by
    intro _ header
    rw [List.append_nil]
    exact .last ⟨header, placed⟩
  take {placed n node rest c} _ ih := by
    intro hflat header
    have hsequence := ih (flat_cons.mp hflat).2 header
    rwa [List.append_assoc] at hsequence
  spill {placed n node rest c} _ _ ih := by
    intro hflat header
    exact .link (ih hflat (.continuation (p.continuation (n + 1))))
  cut _ _ _ := fun hflat => absurd hflat not_flat_bracket
  single _ _ := trivial
  double _ _ _ := trivial
  whole _ := trivial
  split _ _ _ := trivial

/-- The invariant of a run: as many templates as there are behind the first one could not hold what
has been placed and what follows. -/
theorem full_steps {p : Plot} (hc : 2 ≤ p.capacity) :
    RunSteps p
      (fun placed _ nodes c => Flat nodes → c.templates ≠ [] →
        c.templates.length * (p.capacity - 2) + 1 < weightAll placed + weightAll nodes)
      (fun _ _ _ _ _ _ _ => True) (fun _ _ _ _ _ => True) where
  done placed n := by
    intro _ hne
    exact absurd rfl hne
  take {placed n node rest c} _ ih := by
    intro hflat hne
    have hfull := ih (flat_cons.mp hflat).2 hne
    rw [weightAll_append, weightAll_singleton] at hfull
    rw [weightAll]
    omega
  spill {placed n node rest c} hfull _ ih := by
    intro hflat _
    rw [weight_of_flat hflat] at hfull
    have hnodes : 1 + reserve rest ≤ weightAll (node :: rest) := by
      rw [weightAll, weight_of_flat hflat]
      cases rest with
      | nil => simp [reserve]
      | cons i is =>
        have := weight_pos i
        rw [reserve_cons, weightAll]
        omega
    have hreserve := reserve_le rest
    simp only [Plot.linked, List.length_cons, Nat.succ_mul]
    by_cases hlast : c.templates = []
    · rw [hlast, List.length_nil]
      omega
    · have hrest := ih hflat hlast
      rw [weightAll] at hrest
      omega
  cut _ _ _ := fun hflat => absurd hflat not_flat_bracket
  single _ _ := trivial
  double _ _ _ := trivial
  whole _ := trivial
  split _ _ _ := trivial

/-! ## The number of templates -/

/-- `k` linked templates of at most `c` slots can hold `n` instructions. -/
def CanHold (c n k : Nat) : Prop :=
  ∃ ts is, ts.length = k ∧ is.length = n ∧ InSequence ts is ∧ Fits c ts

/-- The closed form of the least `k` templates with room for `n` instructions. -/
theorem templateCount_le_iff {c : Nat} (hc : 3 ≤ c) {n k : Nat} :
    max 1 ((n - 1) ⌈/⌉ (c - 2)) ≤ k ↔ 1 ≤ k ∧ n ≤ k * (c - 2) + 1 := by
  rw [max_le_iff, ceilDiv_le_iff_le_mul (by omega), Nat.mul_comm]
  omega

theorem templateCount_le_of_canHold {c : Nat} (hc : 3 ≤ c) {n k : Nat} (h : CanHold c n k) :
    max 1 ((n - 1) ⌈/⌉ (c - 2)) ≤ k := by
  obtain ⟨ts, is, rfl, rfl, hsequence, hfits⟩ := h
  obtain ⟨hpos, hroom⟩ := weightAll_le_of_inSequence (by omega) hsequence hfits
  have hlength := length_le_weightAll is
  exact (templateCount_le_iff hc).mpr ⟨hpos, by omega⟩

section

variable {capacity : Nat} {unit : Template} {ts : List Template}

theorem canHold_of_fit (hc : 3 ≤ capacity) (hflat : Flat unit.body)
    (h : fit capacity unit = .ok ts) : CanHold capacity unit.body.length ts.length := by
  obtain ⟨c, rfl, hsequence⟩ := (inSequence_steps ⟨capacity, unit.name⟩).fit h
  exact ⟨_, unit.body, rfl, rfl, hsequence hflat unit.header, fits_of_fit (by omega) h⟩

theorem length_le_of_fit (hc : 3 ≤ capacity) (hflat : Flat unit.body)
    (h : fit capacity unit = .ok ts) :
    ts.length ≤ max 1 ((unit.body.length - 1) ⌈/⌉ (capacity - 2)) := by
  have hc' : 2 ≤ (⟨capacity, unit.name⟩ : Plot).capacity := by
    dsimp only
    omega
  obtain ⟨c, rfl, hfull⟩ := (full_steps hc').fit h
  rw [List.length_cons, Nat.succ_le_iff]
  by_contra hle
  -- one template less would do, which the invariant excludes
  obtain ⟨hpos, hroom⟩ := (templateCount_le_iff hc).mp (Nat.not_lt.mp hle)
  have hshort := hfull hflat (List.ne_nil_of_length_pos hpos)
  rw [weightAll, weightAll_of_flat hflat] at hshort
  dsimp only at hshort
  omega

end

/-- **Units without brackets.** A program of such units fits every plot of three slots or more, and
in every program that fits such a unit takes the least number of templates that can hold it. -/
theorem length_templates_of_flat {P : Program} {capacity : Nat} (hc : 3 ≤ capacity) :
    ((∀ unit ∈ P.units, Flat unit.body) → ∃ out, P.fit capacity = .ok out) ∧
      ∀ out, P.fit capacity = .ok out → List.Forall₂ (fun unit u => Flat unit.body →
        u.templates.length = max 1 ((unit.body.length - 1) ⌈/⌉ (capacity - 2)) ∧
          IsLeast {k | CanHold capacity unit.body.length k} u.templates.length)
        P.units out.units := by
  constructor
  · intro hflat
    cases hfit : P.fit capacity with
    | ok out => exact ⟨out, rfl⟩
    | error e =>
      obtain ⟨unit, hunit, hfault⟩ := Program.exists_of_fit_eq_error hfit
      obtain ⟨ts, hts⟩ := succeeds_of_flat hc (hflat unit hunit)
      rw [hts] at hfault
      cases hfault
  · intro out h
    refine (Program.units_of_fit h).imp fun unit u hfit hflat => ?_
    obtain ⟨ts, hts, rfl⟩ := hfit
    have hlength : (promoteUnit unit.name ts).templates.length = ts.length := List.length_map _
    have hhold := canHold_of_fit hc hflat hts
    have hle := length_le_of_fit hc hflat hts
    rw [hlength]
    exact ⟨Nat.le_antisymm hle (templateCount_le_of_canHold hc hhold), hhold, fun k hk =>
      Nat.le_trans hle (templateCount_le_of_canHold hc hk)⟩

namespace Sample

/-- As many waits as one template of five slots can hold, and one more. -/
def waiting : Program :=
  ⟨[⟨.event .player "Join", List.replicate 4 (control "Wait")⟩,
    ⟨.function "f" [] false, List.replicate 5 (control "Wait")⟩]⟩

end Sample

/-- Four waits fill one template of five slots. With a fifth one, a slot is kept free for a call. -/
theorem length_templates_waiting :
    (3 ≤ 5 ∧ ∀ unit ∈ Sample.waiting.units, Flat unit.body) ∧
      ∃ out, Sample.waiting.fit 5 = .ok out ∧
        out.units.map (fun u => u.templates.length) = [1, 2] := by
  have hc : 3 ≤ 5 := by decide
  have hflat : ∀ unit ∈ Sample.waiting.units, Flat unit.body := by decide
  obtain ⟨out, hout⟩ := (length_templates_of_flat hc).1 hflat
  have hunits := (length_templates_of_flat hc).2 out hout
  obtain ⟨u, us, hu, hus, heq⟩ := List.forall₂_cons_left_iff.mp hunits
  obtain ⟨v, vs, hv, hvs, rfl⟩ := List.forall₂_cons_left_iff.mp hus
  obtain rfl := List.forall₂_nil_left_iff.mp hvs
  refine ⟨⟨hc, hflat⟩, out, hout, ?_⟩
  rw [heq, List.map_cons, List.map_cons, (hu (by decide)).1, (hv (by decide)).1]
  rfl

end Plotline
