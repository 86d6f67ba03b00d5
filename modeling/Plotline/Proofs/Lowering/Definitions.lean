import Mathlib.Data.List.Nodup
import Plotline.Lowering.Script
import Plotline.Proofs.Outcome

/-!
# Names that a script defines

Functions and processes share one space of names, and every event of either kind is bound once. So
an item has a key, and `Script.keys_nodup` says that the items of a script that can be lowered have
different keys. `Script.isSome_arity?_iff` says which functions may be called: those of the script.

Both follow from what one item adds to the definitions (`Gathered.add_spec`) by going through the
items.
-/

namespace Plotline

open Script

/-! ## Items -/

namespace Script.Item

/-- What no two items of a script have in common: the event that is bound, or the name of the
function or the process. -/
def key : Item → (EventKind × String) ⊕ String
  | .event kind name _ _ _ => .inl (kind, name.name)
  | .function name _ _ _ _ => .inr name.name
  | .process name _ _ _ => .inr name.name

/-- The name of a function. -/
def functionName? : Item → Option String
  | .function name _ _ _ _ => some name.name
  | .event .. | .process .. => none

/-- The name of a function and the number of its parameters. -/
def function? : Item → Option (String × Nat)
  | .function name params _ _ _ => some (name.name, params.length)
  | .event .. | .process .. => none

def processName? : Item → Option String
  | .process name _ _ _ => some name.name
  | .event .. | .function .. => none

/-- The event that is bound is in the catalog. -/
def Known : Item → Prop
  | .event kind name _ _ _ => name.name ∈ Catalog.events kind
  | .function .. | .process .. => True

/-- The header of the unit that an item becomes. -/
def header : Item → Header
  | .event kind name _ _ _ => .event kind name.name
  | .function name params _ _ _ => .function name.name (params.map Ident.name) false
  | .process name _ _ _ => .process name.name

theorem key_of_functionName? {item : Item} {name : String} (h : item.functionName? = some name) :
    item.key = .inr name := by
  cases item with
  | function =>
    cases h
    rfl
  | event => cases h
  | process => cases h

theorem header_of_lower {d : Definitions} {item : Item} {t : Template}
    (h : item.lower d = .ok t) : t.header = item.header := by
  cases item with
  | event | function | process =>
    obtain ⟨r, -, hret⟩ := bind_eq_ok h
    cases hret
    rfl

end Script.Item

/-! ## Gathering definitions -/

theorem Definitions.isSome_arity?_iff {d : Definitions} {name : String} :
    (d.arity? name).isSome = true ↔ name ∈ d.functions.map Prod.fst := by
  rw [arity?, Option.isSome_map, List.find?_isSome]
  simp

namespace Gathered

/-- The names of the functions. -/
def functionNames (g : Gathered) : List String := g.definitions.functions.map Prod.fst

/-- The keys of the items so far. -/
def keys (g : Gathered) : List ((EventKind × String) ⊕ String) :=
  g.events.map .inl ++ (g.functionNames ++ g.definitions.processes).map .inr

theorem defines_iff {g : Gathered} {name : String} :
    g.defines name = true ↔ .inr name ∈ g.keys := by
  rw [defines, Bool.or_eq_true, Definitions.isSome_arity?_iff, decide_eq_true_iff]
  simp [keys, functionNames]

/-- What an item adds. -/
structure Adds (g : Gathered) (item : Item) (g' : Gathered) : Prop where
  fresh : item.key ∉ g.keys
  keys : g'.keys.Perm (item.key :: g.keys)
  functions : g'.functionNames = item.functionName?.toList ++ g.functionNames

theorem add_spec {g g' : Gathered} {item : Item} (h : g.add item = .ok g') :
    Adds g item g' := by
  cases item with
  | event kind name _ _ span =>
    rw [add] at h
    split at h
    · cases h
    · split at h
      · cases h
      · rename_i hfresh
        cases h
        refine ⟨?_, .refl _, rfl⟩
        simpa [Item.key, keys] using hfresh
  | function name params _ _ _ =>
    rw [add] at h
    split at h
    · cases h
    · rename_i hfresh
      cases h
      refine ⟨fun hmem => hfresh (defines_iff.mpr hmem), ?_, rfl⟩
      simp only [keys, functionNames, List.map_cons, List.cons_append]
      exact List.perm_middle
  | process name _ _ _ =>
    rw [add] at h
    split at h
    · cases h
    · rename_i hfresh
      cases h
      refine ⟨fun hmem => hfresh (defines_iff.mpr hmem), ?_, rfl⟩
      simp only [keys, functionNames, List.map_append, List.map_cons]
      rw [← List.append_assoc, ← List.append_assoc]
      exact List.perm_middle

/-- What the items of a script add. -/
theorem foldlM_add_spec {items : List Item} {g g' : Gathered}
    (h : items.foldlM add g = .ok g') :
    g'.keys.Perm (items.map Item.key ++ g.keys) ∧ (g.keys.Nodup → g'.keys.Nodup) ∧
      ∀ name, name ∈ g'.functionNames ↔
        name ∈ items.filterMap Item.functionName? ∨ name ∈ g.functionNames := by
  induction items generalizing g with
  | nil =>
    cases h
    exact ⟨.refl _, id, by simp⟩
  | cons item items ih =>
    rw [List.foldlM_cons] at h
    obtain ⟨g₁, hadd, hrest⟩ := bind_eq_ok h
    have hspec := add_spec hadd
    obtain ⟨hkeys, hnodup, hfunctions⟩ := ih hrest
    refine ⟨?_, ?_, fun name => ?_⟩
    · exact (hkeys.trans (hspec.keys.append_left _)).trans List.perm_middle
    · intro hg
      exact hnodup (hspec.keys.nodup_iff.mpr (List.nodup_cons.mpr ⟨hspec.fresh, hg⟩))
    · rw [hfunctions, hspec.functions, List.mem_append, Option.mem_toList, List.filterMap_cons]
      cases hname : item.functionName? with
      | none => simp
      | some name' =>
        simp only [Option.some.injEq, List.mem_cons]
        tauto

theorem succeeds_add {g : Gathered} {item : Item} :
    Succeeds (g.add item) ↔ item.Known ∧ item.key ∉ g.keys := by
  cases item with
  | event kind name _ _ span =>
    have hkey : (kind, name.name) ∈ g.events ↔ .inl (kind, name.name) ∈ g.keys := by
      simp [keys]
    rw [add]
    split
    · rename_i hunknown
      exact iff_of_false (not_succeeds_error _) fun h => hunknown h.1
    · rename_i hknown
      split
      · rename_i hbound
        exact iff_of_false (not_succeeds_error _) fun h => h.2 (hkey.mp hbound)
      · rename_i hbound
        exact iff_of_true (succeeds_ok _) ⟨not_not.mp hknown, fun hmem => hbound (hkey.mpr hmem)⟩
  | function name | process name =>
    rw [add]
    split
    · rename_i hdefined
      exact iff_of_false (not_succeeds_error _) fun h => h.2 (defines_iff.mp hdefined)
    · rename_i hdefined
      exact iff_of_true (succeeds_ok _) ⟨trivial, fun hmem => hdefined (defines_iff.mpr hmem)⟩

/-- Items can be gathered if their events are known and all keys are different. -/
theorem succeeds_foldlM_add {items : List Item} {g : Gathered} (hg : g.keys.Nodup) :
    Succeeds (items.foldlM add g) ↔
      (∀ item ∈ items, item.Known) ∧ (items.map Item.key ++ g.keys).Nodup := by
  induction items generalizing g with
  | nil => exact iff_of_true (succeeds_ok _) ⟨by simp, hg⟩
  | cons item items ih =>
    have hperm : (items.map Item.key ++ item.key :: g.keys).Perm
        ((item :: items).map Item.key ++ g.keys) := List.perm_middle
    have hsteps : Succeeds ((item :: items).foldlM add g) ↔ (item.Known ∧ item.key ∉ g.keys) ∧
        (∀ item ∈ items, item.Known) ∧ (items.map Item.key ++ item.key :: g.keys).Nodup := by
      rw [List.foldlM_cons, ← succeeds_add]
      refine succeeds_bind_iff fun g₁ hadd => ?_
      have hspec := add_spec hadd
      rw [ih (hspec.keys.nodup_iff.mpr (List.nodup_cons.mpr ⟨hspec.fresh, hg⟩)),
        (hspec.keys.append_left _).nodup_iff]
    rw [hsteps, List.forall_mem_cons, ← hperm.nodup_iff]
    constructor
    · rintro ⟨⟨hknown, -⟩, hrest, hnodup⟩
      exact ⟨⟨hknown, hrest⟩, hnodup⟩
    · rintro ⟨⟨hknown, hrest⟩, hnodup⟩
      have hfresh := (List.nodup_cons.mp (List.nodup_append.mp hnodup).2.1).1
      exact ⟨⟨hknown, hfresh⟩, hrest, hnodup⟩

/-- The definitions that items add. -/
theorem definitions_of_foldlM_add {items : List Item} {g g' : Gathered}
    (h : items.foldlM add g = .ok g') :
    g'.definitions.functions =
        (items.filterMap Item.function?).reverse ++ g.definitions.functions ∧
      g'.definitions.processes =
        (items.filterMap Item.processName?).reverse ++ g.definitions.processes := by
  induction items generalizing g with
  | nil =>
    cases h
    exact ⟨rfl, rfl⟩
  | cons item items ih =>
    rw [List.foldlM_cons] at h
    obtain ⟨g₁, hadd, hrest⟩ := bind_eq_ok h
    obtain ⟨hfunctions, hprocesses⟩ := ih hrest
    rw [hfunctions, hprocesses]
    cases item with
    | event kind name =>
      rw [add] at hadd
      split at hadd
      · cases hadd
      · split at hadd
        · cases hadd
        · cases hadd
          exact ⟨rfl, rfl⟩
    | function name | process name =>
      rw [add] at hadd
      split at hadd
      · cases hadd
      · cases hadd
        simp [List.filterMap_cons, Item.function?, Item.processName?]

end Gathered

/-! ## The definitions of a script -/

/-- The definitions are those of the items. -/
structure Definitions.Of (d : Definitions) (s : Script) : Prop where
  arity : ∀ name n, d.arity? name = some n ↔ ∃ item ∈ s.items, item.function? = some (name, n)
  processes : ∀ name, name ∈ d.processes ↔ ∃ item ∈ s.items, item.processName? = some name

theorem Definitions.arity?_eq_some_iff {d : Definitions} (h : (d.functions.map Prod.fst).Nodup)
    {name : String} {n : Nat} : d.arity? name = some n ↔ (name, n) ∈ d.functions := by
  rw [arity?, Option.map_eq_some_iff]
  constructor
  · rintro ⟨f, hf, rfl⟩
    obtain rfl : f.1 = name := by simpa using List.find?_some hf
    exact List.mem_of_find?_eq_some hf
  · intro hmem
    obtain ⟨f, hf⟩ := Option.isSome_iff_exists.mp
      (List.find?_isSome (p := fun f : String × Nat => decide (f.1 = name)) |>.mpr
        ⟨_, hmem, by simp⟩)
    have hname : f.1 = name := by simpa using List.find?_some hf
    -- names are different, so what is found is the entry
    have heq : f = (name, n) :=
      List.inj_on_of_nodup_map h (List.mem_of_find?_eq_some hf) hmem hname
    exact ⟨f, hf, by rw [heq]⟩

namespace Script

section

variable {s : Script} {d : Definitions}

/-- The items of a script have different keys. -/
theorem keys_nodup (h : s.definitions = .ok d) : (s.items.map Item.key).Nodup := by
  obtain ⟨g, hfold, -⟩ := map_eq_ok h
  obtain ⟨hkeys, hnodup, -⟩ := Gathered.foldlM_add_spec hfold
  have hempty : (Gathered.keys {}).Nodup := List.nodup_nil
  have hall := hkeys.nodup_iff.mp (hnodup hempty)
  exact (List.nodup_append.mp hall).1

/-- The functions that may be called are those of the script. -/
theorem isSome_arity?_iff (h : s.definitions = .ok d) {name : String} :
    (d.arity? name).isSome = true ↔ name ∈ s.items.filterMap Item.functionName? := by
  obtain ⟨g, hfold, rfl⟩ := map_eq_ok h
  obtain ⟨-, -, hfunctions⟩ := Gathered.foldlM_add_spec hfold
  rw [Definitions.isSome_arity?_iff]
  refine (hfunctions name).trans (or_iff_left ?_)
  exact List.not_mem_nil

/-- A script has definitions if its events are known and its items have different keys. -/
theorem succeeds_definitions :
    Succeeds s.definitions ↔ (∀ item ∈ s.items, item.Known) ∧ (s.items.map Item.key).Nodup := by
  have hempty : (Gathered.keys {}).Nodup := List.nodup_nil
  refine (succeeds_map_iff (f := Gathered.definitions)).trans ?_
  rw [Gathered.succeeds_foldlM_add hempty]
  simp [Gathered.keys, Gathered.functionNames]

theorem definitions_of (h : s.definitions = .ok d) : d.Of s := by
  obtain ⟨g, hfold, rfl⟩ := map_eq_ok h
  obtain ⟨hkeys, hnodup, -⟩ := Gathered.foldlM_add_spec hfold
  obtain ⟨hfunctions, hprocesses⟩ := Gathered.definitions_of_foldlM_add hfold
  have hempty : (Gathered.keys {}).Nodup := List.nodup_nil
  have hnames : (g.definitions.functions.map Prod.fst).Nodup := by
    have hright := (List.nodup_append.mp (hnodup hempty)).2.1
    exact (List.nodup_append.mp (List.Nodup.of_map _ hright)).1
  constructor
  · intro name n
    rw [Definitions.arity?_eq_some_iff hnames, hfunctions]
    simp
  · intro name
    rw [hprocesses]
    simp

theorem functionNames_nodup (h : s.definitions = .ok d) :
    (s.items.filterMap Item.functionName?).Nodup := by
  rw [List.Nodup, List.pairwise_filterMap]
  refine (List.pairwise_map.mp (keys_nodup h)).imp ?_
  rintro item item' hne name hname name' hname' rfl
  exact hne (by rw [Item.key_of_functionName? hname, Item.key_of_functionName? hname'])

end

/-- A lowered script and its definitions. -/
theorem forall₂_of_lower {s : Script} {P : Program} (h : s.lower = .ok P) :
    ∃ d, s.definitions = .ok d ∧
      List.Forall₂ (fun item unit => item.lower d = .ok unit) s.items P.units := by
  obtain ⟨d, hd, hrest⟩ := bind_eq_ok h
  obtain ⟨units, hunits, hret⟩ := bind_eq_ok hrest
  cases hret
  exact ⟨d, hd, mapM_eq_ok hunits⟩

theorem headers_of_lower {s : Script} {P : Program} (h : s.lower = .ok P) :
    P.units.map Template.header = s.items.map Item.header := by
  obtain ⟨d, -, hunits⟩ := forall₂_of_lower h
  generalize s.items = items, P.units = units at hunits ⊢
  induction hunits with
  | nil => rfl
  | cons hunit _ ih => rw [List.map_cons, List.map_cons, Item.header_of_lower hunit, ih]

end Script

end Plotline
