import Plotline.Proofs.Fitting.Names
import Plotline.Proofs.Fitting.Promotion

/-!
# Collisions of promoted variables

A promoted variable gets game scope, and game variables are shared by the whole plot. So it meets
every game variable of its name that a unit of the program mentions, and every variable of its name
that an earlier unit has promoted.

`collisions_of_fit`: the collisions on record are these promotions, all of them and in their order.
Names in use are looked up in the templates and not in the program, but cutting units into templates
neither adds nor loses a value (`mem_values_of_fit`). While the units are gone through, the names in
use grow by those promoted so far (`collisions_eq_filter`).
-/

namespace Plotline

open Instruction

/-! ## Values of templates and of their unit -/

theorem valuesAll_link (p : Plot) (n : Nat) : valuesAll [p.link n] = [] := rfl

theorem mem_valuesAll_append {is js : List Instruction} {v : Value} :
    v ∈ valuesAll (is ++ js) ↔ v ∈ valuesAll is ∨ v ∈ valuesAll js := by
  simp [mem_valuesAll, or_and_right, exists_or]

mutual

theorem Layout.mem_values (p : Plot) (v : Value) : ∀ l : Layout,
    v ∈ valuesAll l.joined ↔ v ∈ valuesAll (l.held p) ∨ ∃ t ∈ l.behind p, v ∈ t.values
  | .done => by simp [Layout.joined, Layout.held, Layout.behind]
  | .node i rest => by
    simp only [Layout.joined, Layout.held, Layout.behind, valuesAll, List.mem_append,
      rest.mem_values p v, or_assoc]
  | .cut b rest => by
    simp only [Layout.joined, Layout.held, Layout.behind, valuesAll, List.mem_append,
      rest.mem_values p v, b.mem_values p v, or_and_right, exists_or]
    exact or_or_or_comm
  | .next n rest => by
    simp [Layout.joined, Layout.held, Layout.behind, rest.mem_values p v, valuesAll_link,
      Template.values]

theorem CutBracket.mem_values (p : Plot) (v : Value) : ∀ b : CutBracket,
    v ∈ b.joined.values ↔ v ∈ (b.held p).values ∨ ∃ t ∈ b.behind p, v ∈ t.values
  | .single head setup body => by
    simp only [CutBracket.joined, CutBracket.held, CutBracket.behind, values, List.mem_append,
      body.mem_values p v, or_assoc]
  | .double head setup body other => by
    simp only [CutBracket.joined, CutBracket.held, CutBracket.behind, values, List.mem_append,
      body.mem_values p v, other.mem_values p v, or_and_right, exists_or, or_assoc]
    simp only [or_left_comm]

theorem CutBody.mem_values (p : Plot) (v : Value) : ∀ b : CutBody,
    v ∈ valuesAll b.joined ↔ v ∈ valuesAll (b.held p) ∨ ∃ t ∈ b.behind p, v ∈ t.values
  | .whole is => by simp [CutBody.joined, CutBody.held, CutBody.behind]
  | .split kept n rest => by
    simp [CutBody.joined, CutBody.held, CutBody.behind, valuesAll_link,
      mem_valuesAll_append, rest.mem_values p v, Template.values]

end

/-- Fitting a unit neither adds nor loses a value. -/
theorem mem_values_of_fit {capacity : Nat} {unit : Template} {ts : List Template}
    (h : fit capacity unit = .ok ts) (v : Value) : (∃ t ∈ ts, v ∈ t.values) ↔ v ∈ unit.values := by
  obtain ⟨l, hjoined, -, -, rfl⟩ := layout_of_fit h
  rw [Template.values, ← hjoined, l.mem_values ⟨capacity, unit.name⟩ v, Layout.templates]
  simp [Template.values]

/-! ## Promotions and the places of their units -/

instance (t : Template) (v : Value) : Decidable (t.Mentions v) :=
  decidable_of_iff _ Template.mem_values_iff

/-- A unit of the program mentions a game variable of this name. -/
def Program.UsesGame (P : Program) (x : String) : Prop :=
  ∃ unit ∈ P.units, unit.Mentions (.var x .game)

/-- The promotions of units, with the places of the units in their list. -/
def PromotedUnit.placed (us : List PromotedUnit) (first : Nat) : List (Nat × Promotion) :=
  (us.zipIdx first).flatMap fun u => u.1.promotions.map fun q => (u.2, q)

namespace FittedProgram

/-- The promotions of a fitted program, with the places of their units. -/
def placedPromotions (f : FittedProgram) : List (Nat × Promotion) := PromotedUnit.placed f.units 0

/-- The promoted variable has the name of a game variable of the program, or of a variable that an
earlier unit has promoted. -/
def Collides (f : FittedProgram) (P : Program) (q : Nat × Promotion) : Prop :=
  P.UsesGame q.2.name ∨ ∃ r ∈ f.placedPromotions, r.1 < q.1 ∧ r.2.name = q.2.name

instance (f : FittedProgram) (P : Program) (q : Nat × Promotion) : Decidable (f.Collides P q) :=
  inferInstanceAs (Decidable ((∃ unit ∈ P.units, _) ∨ ∃ r ∈ f.placedPromotions, _))

end FittedProgram

namespace PromotedUnit

theorem placed_cons (u : PromotedUnit) (us : List PromotedUnit) (first : Nat) :
    placed (u :: us) first = u.promotions.map (fun q => (first, q)) ++ placed us (first + 1) := rfl

theorem mem_placed_iff {us : List PromotedUnit} {first : Nat} {q : Nat × Promotion} :
    q ∈ placed us first ↔ first ≤ q.1 ∧ ∃ u, us[q.1 - first]? = some u ∧ q.2 ∈ u.promotions := by
  obtain ⟨k, q⟩ := q
  simp only [placed, List.mem_flatMap, List.mem_map, Prod.mk.injEq]
  constructor
  · rintro ⟨⟨u, j⟩, hu, q', hq, rfl, rfl⟩
    obtain ⟨hle, hget⟩ := List.mem_zipIdx_iff_le_and_getElem?_sub.mp hu
    exact ⟨hle, u, hget, hq⟩
  · rintro ⟨hle, u, hget, hq⟩
    exact ⟨(u, k), List.mem_zipIdx_iff_le_and_getElem?_sub.mpr ⟨hle, hget⟩, q, hq, rfl, rfl⟩

theorem mem_promoted_iff {u : PromotedUnit} {x : String} :
    x ∈ u.promoted ↔ ∃ q ∈ u.promotions, q.name = x := by
  simp [promotions]

theorem map_snd_placed (us : List PromotedUnit) (first : Nat) :
    (placed us first).map Prod.snd = us.flatMap promotions := by
  induction us generalizing first with
  | nil => rfl
  | cons u us ih =>
    rw [placed_cons, List.map_append, List.map_map, ih, List.flatMap_cons]
    simp [Function.comp_def]

/-- A promotion collides with a name that was in use at the start or with a promotion of an earlier
unit. The induction is on the units that are left; the names in use grow with every unit. -/
theorem collisions_eq_filter (taken : List String) (us : List PromotedUnit) (first : Nat) :
    collisions taken us = ((placed us first).filter fun q =>
      q.2.name ∈ taken ∨ ∃ r ∈ placed us first, r.1 < q.1 ∧ r.2.name = q.2.name).map Prod.snd := by
  induction us generalizing taken first with
  | nil => rfl
  | cons u us ih =>
    rw [collisions, ih (taken ++ u.promoted) (first + 1), placed_cons, List.filter_append,
      List.map_append]
    congr 1
    · -- no unit comes before the first one
      rw [List.filter_map, List.map_map]
      have hfirst : ∀ r ∈ u.promotions.map (fun q => (first, q)) ++ placed us (first + 1),
          ¬ r.1 < first := by
        rw [← placed_cons]
        intro r hr
        exact Nat.not_lt.mpr (mem_placed_iff.mp hr).1
      have hid : (Prod.snd ∘ fun q : Promotion => (first, q)) = id := rfl
      rw [hid, List.map_id]
      refine List.filter_congr fun q _ => ?_
      rw [Function.comp_apply, decide_eq_decide, iff_self_or]
      rintro ⟨r, hr, hlt, -⟩
      exact absurd hlt (hfirst r hr)
    · congr 1
      refine List.filter_congr fun q hq => ?_
      have hlt : first < q.1 := (mem_placed_iff.mp hq).1
      rw [decide_eq_decide, List.mem_append, or_assoc, mem_promoted_iff]
      simp only [List.mem_append, List.mem_map, or_and_right, exists_or]
      simp [hlt]

end PromotedUnit

/-! ## Collisions of a program -/

section

variable {P : Program} {capacity : Nat} {out : FittedProgram}

/-- The names that are in use before anything is promoted are those of the game variables that the
program mentions. -/
theorem taken_of_fit (h : P.fit capacity = .ok out) :
    ∃ taken, (∀ x, x ∈ taken ↔ P.UsesGame x) ∧
      out.collisions = PromotedUnit.collisions taken out.units := by
  obtain ⟨groups, hgroups, hret⟩ := bind_eq_ok h
  cases hret
  have hruns := mapM_eq_ok hgroups
  refine ⟨groups.flatten.flatMap (Template.namesIn .game), fun x => ?_, rfl⟩
  simp only [List.mem_flatMap, List.mem_flatten, mem_namesIn_iff]
  constructor
  · rintro ⟨t, ⟨ts, hts, ht⟩, hx⟩
    obtain ⟨unit, hunit, hfit⟩ := exists_of_mem_right hruns hts
    exact ⟨unit, hunit, Template.mem_values_iff.mp ((mem_values_of_fit hfit _).mp ⟨t, ht, hx⟩)⟩
  · rintro ⟨unit, hunit, hx⟩
    obtain ⟨ts, hts, hfit⟩ := exists_of_mem_right hruns.flip hunit
    obtain ⟨t, ht, hxt⟩ := (mem_values_of_fit hfit _).mpr (Template.mem_values_iff.mpr hx)
    exact ⟨t, ⟨ts, hts, ht⟩, hxt⟩

theorem unit_of_mem_placedPromotions (h : P.fit capacity = .ok out) {q : Nat × Promotion}
    (hq : q ∈ out.placedPromotions) : P.units[q.1]?.map Template.name = some q.2.unit := by
  obtain ⟨-, u, hget, hmem⟩ := PromotedUnit.mem_placed_iff.mp hq
  obtain ⟨x, -, hx⟩ := List.mem_map.mp hmem
  rw [Nat.sub_zero] at hget
  rw [← List.getElem?_map, ← Program.names_of_fit h, List.getElem?_map, hget, ← hx]
  rfl

/-- **Collisions.** The promotions of a fitted program that are on record as collisions are, in
their order, those of a name that the program uses for a game variable or that a unit further to the
front has promoted as well. -/
theorem collisions_of_fit (h : P.fit capacity = .ok out) :
    out.placedPromotions.map Prod.snd = out.promotions ∧
      (∀ q ∈ out.placedPromotions, P.units[q.1]?.map Template.name = some q.2.unit) ∧
      out.collisions =
        (out.placedPromotions.filter fun q => out.Collides P q).map Prod.snd := by
  refine ⟨PromotedUnit.map_snd_placed out.units 0, fun q => unit_of_mem_placedPromotions h, ?_⟩
  obtain ⟨taken, htaken, hcollisions⟩ := taken_of_fit h
  rw [hcollisions, PromotedUnit.collisions_eq_filter taken out.units 0]
  congr 1
  refine List.filter_congr fun q _ => ?_
  rw [decide_eq_decide, htaken, FittedProgram.Collides, FittedProgram.placedPromotions]

end

namespace Sample

/-- Sets the line variable `x` to a value. -/
def assign (x : String) (value : Value) : Instruction :=
  .action ⟨.setVar, "=", [.var x .line, value], none⟩

/-- Both functions have a line variable `x`. The first one has a line variable `y` too, the second
one a game variable. -/
def twins : Program :=
  ⟨[⟨.function "f" [] false, List.replicate 4 (assign "y" (.var "x" .line))⟩,
    ⟨.function "g" [] false, List.replicate 4 (assign "x" (.var "y" .game))⟩]⟩

/-- The functions on a plot of four slots, where both take two templates. -/
def fittedTwins : FittedProgram :=
  let set (x y : String) : Instruction :=
    .action ⟨.setVar, "=", [.var x .game, .var y .game], none⟩
  ⟨[⟨"f", [⟨.function "f" [] false, [set "y" "x", set "y" "x", .call (.link "f~1")]⟩,
        ⟨.continuation "f~1", [set "y" "x", set "y" "x"]⟩], ["y", "x"]⟩,
      ⟨"g", [⟨.function "g" [] false, [set "x" "y", set "x" "y", .call (.link "g~1")]⟩,
        ⟨.continuation "g~1", [set "x" "y", set "x" "y"]⟩], ["x"]⟩],
    [⟨"f", "y"⟩, ⟨"g", "x"⟩]⟩

theorem twins_fit : twins.fit 4 = .ok fittedTwins := by
  cbv

end Sample

/-- The `y` of the first function meets the game variable, and the `x` of the second function meets
the `x` of the first one, which comes first and meets nothing. -/
theorem collisions_of_twins :
    Sample.fittedTwins.placedPromotions = [(0, ⟨"f", "y"⟩), (0, ⟨"f", "x"⟩), (1, ⟨"g", "x"⟩)] ∧
      Sample.fittedTwins.collisions = [⟨"f", "y"⟩, ⟨"g", "x"⟩] ∧
      Sample.fittedTwins.collisions = (Sample.fittedTwins.placedPromotions.filter fun q =>
        Sample.fittedTwins.Collides Sample.twins q).map Prod.snd :=
  ⟨rfl, rfl, (collisions_of_fit Sample.twins_fit).2.2⟩

end Plotline
