import Plotline.Proofs.Fitting.Run

/-!
# Templates fit the plot

No template of a fitted program has more slots than the plot allows
(`weight_le_capacity_of_fit`). While instructions follow, a template that holds something keeps one
slot free; a bracket is cut to the slots it is given, and the else body gets what the body leaves
of them. `fits_steps` states these bounds for the three functions of the fitting.
-/

namespace Plotline

open Instruction

/-! ## Weights of lists -/

theorem weightAll_append (is js : List Instruction) :
    weightAll (is ++ js) = weightAll is + weightAll js := by
  induction is with
  | nil => simp [weightAll]
  | cons i is ih => simp only [List.cons_append, weightAll, ih, Nat.add_assoc]

theorem weightAll_singleton (i : Instruction) : weightAll [i] = i.weight := by
  simp [weightAll]

/-- A call takes one slot. -/
theorem weightAll_append_link (p : Plot) (is : List Instruction) (n : Nat) :
    weightAll (is ++ [p.link n]) = weightAll is + 1 := by
  rw [weightAll_append, weightAll_singleton, Plot.link, weight]

theorem reserve_cons (i : Instruction) (is : List Instruction) : reserve (i :: is) = 1 := rfl

/-- The part of a body that is kept leaves room for a call. -/
theorem weightAll_keep_lt {budget : Nat} (h : 1 ≤ budget) (is : List Instruction) :
    weightAll (keep budget is).1 + 1 ≤ budget := by
  induction is generalizing budget with
  | nil => simpa [keep, weightAll] using h
  | cons i is ih =>
    rw [keep]
    split
    · rename_i hfit
      have hleft : 1 ≤ budget - i.weight := by omega
      have hrest := ih hleft
      simp only [weightAll]
      omega
    · simpa [weightAll] using h

/-! ## Weights do not depend on values -/

mutual

theorem weight_mapValues (f : Value → Value) : ∀ i : Instruction, (i.mapValues f).weight = i.weight
  | .action a => by simp [mapValues, weight]
  | .call c => by simp [mapValues, weight]
  | .bracket head setup body none => by
    simp [mapValues, weight, weightAll_mapValuesAll f setup, weightAll_mapValuesAll f body]
  | .bracket head setup body (some rest) => by
    simp [mapValues, weight, weightAll_mapValuesAll f setup, weightAll_mapValuesAll f body,
      weightAll_mapValuesAll f rest]

theorem weightAll_mapValuesAll (f : Value → Value) :
    ∀ is : List Instruction, weightAll (mapValuesAll f is) = weightAll is
  | [] => by simp [mapValuesAll]
  | i :: is => by simp [mapValuesAll, weightAll, weight_mapValues f i, weightAll_mapValuesAll f is]

end

theorem Template.weight_promote (names : List String) (t : Template) :
    (t.promote names).weight = t.weight := by
  simp only [Template.promote, Template.mapValues, Template.weight, weightAll_mapValuesAll]

/-! ## The bounds of a run -/

/-- No template has more slots than the plot allows. -/
def Fits (capacity : Nat) (ts : List Template) : Prop := ∀ t ∈ ts, t.weight ≤ capacity

theorem fits_nil (capacity : Nat) : Fits capacity [] := by
  simp [Fits]

theorem fits_cons {capacity : Nat} {t : Template} {ts : List Template} :
    Fits capacity (t :: ts) ↔ t.weight ≤ capacity ∧ Fits capacity ts := by
  simp [Fits]

theorem fits_append {capacity : Nat} {ts us : List Template} :
    Fits capacity (ts ++ us) ↔ Fits capacity ts ∧ Fits capacity us := by
  simp [Fits, or_imp, forall_and]

/-- A template that holds instructions while `nodes` follow has a slot left for a call. -/
def HasRoom (capacity : Nat) (placed nodes : List Instruction) : Prop :=
  placed ≠ [] → 1 + weightAll placed + reserve nodes ≤ capacity

/-- The body `is` and the templates behind it fit. -/
def FitsCut (capacity : Nat) (c : Cut (List Instruction)) : Prop :=
  1 + weightAll c.kept ≤ capacity ∧ Fits capacity c.templates

/-- What closing a template with a call needs: room for the call. -/
theorem fits_linked {p : Plot} {kept : List Instruction} {n : Nat} {c : Cut (List Instruction)}
    (hc : FitsCut p.capacity c) : Fits p.capacity (p.linked kept n c).templates :=
  fits_cons.mpr ⟨hc.1, hc.2⟩

theorem fits_steps {p : Plot} (hp : 1 ≤ p.capacity) :
    RunSteps p
      (fun placed _ nodes c => HasRoom p.capacity placed nodes → FitsCut p.capacity c)
      (fun _ _ _ _ available _ b => b.kept.weight ≤ available ∧ Fits p.capacity b.templates)
      (fun _ _ budget _ b => 1 ≤ budget → weightAll b.kept ≤ budget ∧ Fits p.capacity b.templates)
      where
  done placed n := by
    intro hroom
    refine ⟨?_, fits_nil _⟩
    by_cases hplaced : placed = []
    · subst hplaced
      simpa [weightAll] using hp
    · have := hroom hplaced
      dsimp only
      omega
  take {placed n node rest c} hfit ih := by
    intro _
    apply ih
    intro _
    rw [weightAll_append, weightAll_singleton]
    omega
  spill {placed n node rest c} _ hne ih := by
    intro hroom
    have hslot := hroom hne
    rw [reserve_cons] at hslot
    have hc : FitsCut p.capacity c := ih (fun h => absurd rfl h)
    refine ⟨?_, fits_linked hc⟩
    rw [Plot.linked, weightAll_append_link]
    omega
  cut {n head setup body other rest b c} _ hb ih := by
    intro _
    obtain ⟨hkept, hbehind⟩ := hb
    have hc : FitsCut p.capacity c := by
      apply ih
      intro _
      -- the kept part has a slot, so the slots that were given out were there
      have := weight_pos b.kept
      rw [weightAll_singleton]
      omega
    exact ⟨hc.1, fits_append.mpr ⟨hbehind, hc.2⟩⟩
  single {head setup body available n b} hroom hb := by
    obtain ⟨hkept, hbehind⟩ := hb (by omega)
    refine ⟨?_, hbehind⟩
    rw [weight_bracket, elseWeight]
    omega
  double {head setup body other available n b o} hroom hb ho := by
    obtain ⟨hkept, hbehind⟩ := hb (by omega)
    obtain ⟨hother, hbehind'⟩ := ho (by omega)
    refine ⟨?_, fits_append.mpr ⟨hbehind, hbehind'⟩⟩
    have hshell : shellWeight setup (some o.kept) = shellWeight setup (some other) := rfl
    rw [weight_bracket, elseWeight, hshell]
    omega
  whole {head body budget n} hfit := by
    intro _
    exact ⟨hfit, fits_nil _⟩
  split {head body budget n c} _ _ ih := by
    intro hbudget
    have hc : FitsCut p.capacity c := ih (fun h => absurd rfl h)
    refine ⟨?_, fits_linked hc⟩
    have := weightAll_keep_lt hbudget body
    rw [Plot.linked, weightAll_append_link]
    omega

/-- The templates of a unit fit. -/
theorem fits_of_fit {capacity : Nat} {unit : Template} {ts : List Template} (hc : 1 ≤ capacity)
    (h : fit capacity unit = .ok ts) : Fits capacity ts := by
  obtain ⟨c, rfl, hrun⟩ := (fits_steps (p := ⟨capacity, unit.name⟩) hc).fit h
  obtain ⟨hfirst, hbehind⟩ := hrun (fun hne => absurd rfl hne)
  exact fits_cons.mpr ⟨hfirst, hbehind⟩

/-- **Capacity.** No template of a fitted program has more slots than the plot allows. -/
theorem weight_le_capacity_of_fit {P : Program} {capacity : Nat} {out : FittedProgram}
    (hc : 1 ≤ capacity) (h : P.fit capacity = .ok out) :
    ∀ t ∈ out.templates, t.weight ≤ capacity := by
  intro t ht
  obtain ⟨u, hu, htu⟩ := List.mem_flatMap.mp ht
  obtain ⟨unit, -, ts, hfit, rfl⟩ := exists_of_mem_right (Program.units_of_fit h) hu
  obtain ⟨t', ht', rfl⟩ := List.mem_map.mp htu
  rw [Template.weight_promote]
  exact fits_of_fit hc hfit t' ht'

/-- The bound is reached: a template with a cut loop and one with a cut else body are full. -/
theorem weight_le_capacity_sample :
    Sample.fitted.templates.map Template.weight = [12, 4, 3, 12, 4] ∧
      ∀ t ∈ Sample.fitted.templates, t.weight ≤ 12 :=
  ⟨by decide, weight_le_capacity_of_fit (by decide) Sample.program_fit⟩

end Plotline
