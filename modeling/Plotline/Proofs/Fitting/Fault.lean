import Plotline.Proofs.Fitting.Capacity

/-!
# Runs of the fitting that fail

The counterpart of `RunSteps` for runs that fail. A run ends at its first fault, so what matters is
the way from the whole to the place of the fault: `FaultSteps p P B S` lists the steps of this way,
with the condition under which each of them is taken. `FaultSteps.runs` is the induction, and
`FaultSteps.fit` the case of a whole unit.

Whether a run fails, and how, depends neither on what the template at hand already holds nor on the
numbers of continuations, so that the predicates speak of instructions and slots only. What the
body of a bracket leaves for the else body is `cutWeight`, the weight of a body that was cut.
-/

namespace Plotline

open Instruction

/-! ## The weight of a body that was cut -/

/-- What a body weighs when it is cut to `budget` slots. -/
def cutWeight (budget : Nat) (body : List Instruction) : Nat :=
  if weightAll body ≤ budget then weightAll body else weightAll (keep budget body).1 + 1

theorem weightAll_of_splitBody {p : Plot} {head : Head} {body : List Instruction} {budget n : Nat}
    {b : Cut (List Instruction)} (h : splitBody p head body budget n = .ok b) :
    weightAll b.kept = cutWeight budget body := by
  unfold cutWeight
  split
  · rename_i hfit
    rw [splitBody_of_fits hfit] at h
    cases h
    rfl
  · rename_i hfit
    have hheavy := Nat.lt_of_not_le hfit
    cases hexit : escapingExitAll? false (keep budget body).2 with
    | some exit =>
      rw [splitBody_of_exit hheavy hexit] at h
      cases h
    | none =>
      rw [splitBody_of_heavy hheavy hexit] at h
      obtain ⟨r, -, hret⟩ := bind_eq_ok h
      cases hret
      exact weightAll_append_link p _ _

/-! ## The way to a fault -/

/-- The steps to a fault: `P` of `pack`, `B` of `splitBracket`, `S` of `splitBody`. -/
structure FaultSteps (p : Plot) (P : List Instruction → FittingError → Prop)
    (B : Head → List Instruction → List Instruction → Option (List Instruction) → Nat →
      FittingError → Prop)
    (S : Head → List Instruction → Nat → FittingError → Prop) : Prop where
  later {node : Instruction} {rest : List Instruction} {e : FittingError} :
    P rest e → P (node :: rest) e
  /-- An action or a call does not fit an empty template. -/
  simple {node : Instruction} {rest : List Instruction} :
    (∀ head setup body other, node = bracket head setup body other → False) →
    p.capacity < 1 + node.weight + reserve rest →
    P (node :: rest) (.unsplittable p.unit node.describe p.capacity)
  /-- A bracket that has to be cut cannot be. -/
  cut {head : Head} {setup body : List Instruction} {other : Option (List Instruction)}
    {rest : List Instruction} {e : FittingError} :
    p.capacity < 1 + (bracket head setup body other).weight + reserve rest →
    B head setup body other (p.capacity - (1 + reserve rest)) e →
    P (bracket head setup body other :: rest) e
  /-- A bracket has no room for calls. -/
  narrow {head : Head} {setup body : List Instruction} {other : Option (List Instruction)}
    {available : Nat} : available < shellWeight setup other + linkSlots other →
    B head setup body other available (.unsplittable p.unit head.describe p.capacity)
  single {head : Head} {setup body : List Instruction} {available : Nat} {e : FittingError} :
    shellWeight setup none + 1 ≤ available →
    S head body (available - shellWeight setup none) e → B head setup body none available e
  double {head : Head} {setup body other : List Instruction} {available : Nat}
    {e : FittingError} : shellWeight setup (some other) + 2 ≤ available →
    S head body (available - shellWeight setup (some other) - 1) e →
    B head setup body (some other) available e
  /-- The fault lies in the else body, which gets what the body leaves. -/
  otherwise {head : Head} {setup body other : List Instruction} {available : Nat}
    {e : FittingError} : shellWeight setup (some other) + 2 ≤ available →
    S head other (available - shellWeight setup (some other) -
      cutWeight (available - shellWeight setup (some other) - 1) body) e →
    B head setup body (some other) available e
  /-- An exit would move away from what it leaves. -/
  exit {head : Head} {body : List Instruction} {budget : Nat} {exit : Exit} :
    budget < weightAll body → escapingExitAll? false (keep budget body).2 = some exit →
    S head body budget (.splitExit p.unit head.describe exit)
  /-- The fault lies in what has moved. -/
  split {head : Head} {body : List Instruction} {budget : Nat} {e : FittingError} :
    budget < weightAll body → escapingExitAll? false (keep budget body).2 = none →
    P (keep budget body).2 e → S head body budget e

namespace FaultSteps

variable {p : Plot} {P : List Instruction → FittingError → Prop}
  {B : Head → List Instruction → List Instruction → Option (List Instruction) → Nat →
    FittingError → Prop}
  {S : Head → List Instruction → Nat → FittingError → Prop}

theorem runs (s : FaultSteps p P B S) :
    (∀ header placed inner n nodes, ∀ e,
      pack p header placed inner n nodes = .error e → P nodes e) ∧
    (∀ head setup body other available n, ∀ e,
      splitBracket p head setup body other available n = .error e →
      B head setup body other available e) ∧
    (∀ head body budget n, ∀ e,
      splitBody p head body budget n = .error e → S head body budget e) := by
  apply pack.mutual_induct p
    (fun header placed inner n nodes => ∀ e,
      pack p header placed inner n nodes = .error e → P nodes e)
    (fun head setup body other available n => ∀ e,
      splitBracket p head setup body other available n = .error e →
      B head setup body other available e)
    (fun head body budget n => ∀ e,
      splitBody p head body budget n = .error e → S head body budget e)
  -- `pack` at the end of the instructions
  · intro header placed inner n e h
    rw [pack_nil] at h
    cases h
  -- `pack` places an instruction
  · intro header placed inner n node rest hfit ih e h
    rw [pack_of_fits hfit] at h
    exact s.later (ih e h)
  -- `pack` begins the next template
  · intro header placed inner n node rest hfit hne ih e h
    rw [pack_of_full (Nat.lt_of_not_le hfit) hne] at h
    rcases bind_eq_error h with hrun | ⟨r, -, hret⟩
    · exact ih e hrun
    · cases hret
  -- `pack` cuts a bracket
  · intro header placed inner n rest hne head setup body other hfit ihb ih e h
    obtain rfl : placed = [] := Decidable.not_not.mp hne
    have hfull := Nat.lt_of_not_le hfit
    rw [pack_of_bracket hfull] at h
    rcases bind_eq_error h with hb | ⟨b, -, hrun⟩
    · exact s.cut (by simpa [weightAll] using hfull) (ihb e hb)
    · exact s.later (ih b e hrun)
  -- `pack` finds that an action or a call does not fit
  · intro header placed inner n rest hne node hbracket hfit e h
    obtain rfl : placed = [] := Decidable.not_not.mp hne
    have hfull := Nat.lt_of_not_le hfit
    rw [pack_of_simple hbracket hfull] at h
    cases h
    exact s.simple hbracket (by simpa [weightAll] using hfull)
  -- `splitBracket` finds too little room
  · intro head setup body other available n _ hshell e h
    rw [splitBracket_of_narrow hshell] at h
    cases h
    exact s.narrow hshell
  -- `splitBracket` cuts the body
  · intro head setup body available n _ hshell ih e h
    have hroom : shellWeight setup none + 1 ≤ available := Nat.not_lt.mp hshell
    rw [splitBracket_none hroom] at h
    rcases bind_eq_error h with hb | ⟨b, -, hret⟩
    · exact s.single hroom (ih e hb)
    · cases hret
  -- `splitBracket` cuts the body and the else body
  · intro head setup body available n other _ hshell ihb iho e h
    have hroom : shellWeight setup (some other) + 2 ≤ available := Nat.not_lt.mp hshell
    rw [splitBracket_some hroom] at h
    rcases bind_eq_error h with hb | ⟨b, hb, hrest⟩
    · exact s.double hroom (ihb e hb)
    · rcases bind_eq_error hrest with ho | ⟨o, -, hret⟩
      · have hother := iho b e ho
        rw [weightAll_of_splitBody hb] at hother
        exact s.otherwise hroom hother
      · cases hret
  -- `splitBody` keeps the whole body
  · intro head body budget n hfit e h
    rw [splitBody_of_fits hfit] at h
    cases h
  -- `splitBody` finds an exit behind the part that stays
  · intro head body budget n hfit exit hexit e h
    have hheavy := Nat.lt_of_not_le hfit
    rw [splitBody_of_exit hheavy hexit] at h
    cases h
    exact s.exit hheavy hexit
  -- `splitBody` moves the end of the body
  · intro head body budget n hfit hexit ih e h
    have hheavy := Nat.lt_of_not_le hfit
    rw [splitBody_of_heavy hheavy hexit] at h
    rcases bind_eq_error h with hrun | ⟨r, -, hret⟩
    · exact s.split hheavy hexit (ih e hrun)
    · cases hret

/-- A unit that cannot be fitted has a fault. -/
theorem fit {capacity : Nat} {unit : Template} (s : FaultSteps ⟨capacity, unit.name⟩ P B S)
    {e : FittingError} (h : Plotline.fit capacity unit = .error e) : P unit.body e :=
  s.runs.1 _ _ _ _ _ e (map_eq_error h)

end FaultSteps

/-- A program that cannot be fitted has a unit that cannot be. -/
theorem Program.exists_of_fit_eq_error {P : Program} {capacity : Nat} {e : FittingError}
    (h : P.fit capacity = .error e) : ∃ unit ∈ P.units, Plotline.fit capacity unit = .error e := by
  rcases bind_eq_error h with hrun | ⟨groups, -, hret⟩
  · exact mapM_eq_error hrun
  · cases hret

end Plotline
