import Mathlib.Data.List.Nodup
import Plotline.Fitting.Reassembly
import Plotline.Proofs.Fitting.Layout

/-!
# Names of continuations

The name of a continuation tells its unit and its number (`continuation_inj`), so units with
different names have different continuations. `Program.Fresh` is what a program must satisfy for
these names to be free in it: it has no hidden functions, its units have different names, and it
calls no function under the name of a continuation.

The continuations among the templates of layouts are found by their names
(`Continuations.body?_of_mem`), and no other function is taken for one of them.
-/

namespace Plotline

open Instruction

/-! ## A name determines its unit and its number -/

theorem continuation_toList (p : Plot) (n : Nat) :
    (p.continuation n).toList = p.unit.toList ++ '~' :: (toString n).toList := by
  simp [Plot.continuation, String.toList_append]

theorem continuation_inj {p q : Plot} {n m : Nat} (h : p.continuation n = q.continuation m) :
    p.unit = q.unit ∧ n = m := by
  have hlist := congrArg String.toList h
  rw [continuation_toList, continuation_toList] at hlist
  obtain ⟨hunit, hnumber⟩ :=
    append_cons_inj (notMem_toString rfl n) (notMem_toString rfl m) hlist
  exact ⟨String.toList_inj.mp hunit, eq_of_toString hnumber⟩

/-! ## Programs in which the names are free -/

mutual

/-- Every call in the instruction and in all that is nested in it. -/
def Instruction.calls : Instruction → List Call
  | .action _ => []
  | .call c => [c]
  | .bracket _ setup body none => callsAll setup ++ callsAll body
  | .bracket _ setup body (some rest) => callsAll setup ++ callsAll body ++ callsAll rest

def Instruction.callsAll : List Instruction → List Call
  | [] => []
  | i :: is => calls i ++ callsAll is

end

theorem callsAll_append (is js : List Instruction) :
    callsAll (is ++ js) = callsAll is ++ callsAll js := by
  induction is with
  | nil => rfl
  | cons i is ih => simp only [List.cons_append, callsAll, ih, List.append_assoc]

/-- No function that is called here is one of those that `known?` knows. -/
def Foreign {α : Type} (known? : String → Option α) (calls : List Call) : Prop :=
  ∀ c ∈ calls, c.kind = .function → known? c.name = none

theorem foreign_append {α : Type} {known? : String → Option α} {cs ds : List Call} :
    Foreign known? (cs ++ ds) ↔ Foreign known? cs ∧ Foreign known? ds := by
  simp only [Foreign, List.mem_append, or_imp, forall_and]

mutual

theorem calls_mapValues (f : Value → Value) : ∀ i : Instruction,
    (i.mapValues f).calls = i.calls.map fun c => { c with args := c.args.map f }
  | .action a => rfl
  | .call c => rfl
  | .bracket head setup body none => by
    simp only [mapValues, calls, callsAll_mapValuesAll f setup, callsAll_mapValuesAll f body,
      List.map_append]
  | .bracket head setup body (some rest) => by
    simp only [mapValues, calls, callsAll_mapValuesAll f setup, callsAll_mapValuesAll f body,
      callsAll_mapValuesAll f rest, List.map_append]

theorem callsAll_mapValuesAll (f : Value → Value) : ∀ is : List Instruction,
    callsAll (mapValuesAll f is) = (callsAll is).map fun c => { c with args := c.args.map f }
  | [] => rfl
  | i :: is => by
    simp only [mapValuesAll, callsAll, calls_mapValues f i, callsAll_mapValuesAll f is,
      List.map_append]

end

theorem foreign_map {α : Type} {known? : String → Option α} {cs : List Call}
    (h : Foreign known? cs) (f : Value → Value) :
    Foreign known? (cs.map fun c => { c with args := c.args.map f }) := by
  intro c hc hkind
  obtain ⟨c', hc', rfl⟩ := List.mem_map.mp hc
  exact h c' hc' hkind

/-- The names of continuations are free in the program. -/
structure Program.Fresh (P : Program) : Prop where
  visible : ∀ u ∈ P.units, u.header.isContinuation = false
  distinct : (P.units.map Template.name).Nodup
  uncalled : ∀ u ∈ P.units, ∀ c ∈ callsAll u.body, c.kind = .function →
    ∀ v ∈ P.units, ∀ n, 1 ≤ n → c.name ≠ v.name ++ "~" ++ toString n

/-- A name without a tilde is no name of a continuation. -/
theorem ne_continuation {name : String} (h : '~' ∉ name.toList) (p : Plot) (n : Nat) :
    name ≠ p.continuation n := by
  rintro rfl
  rw [continuation_toList] at h
  exact h (by simp)

/-- Where no called name has a tilde, the names of continuations are free. -/
theorem Program.Fresh.of_plain {P : Program}
    (hvisible : ∀ u ∈ P.units, u.header.isContinuation = false)
    (hdistinct : (P.units.map Template.name).Nodup)
    (hplain : ∀ u ∈ P.units, ∀ c ∈ callsAll u.body, '~' ∉ c.name.toList) : P.Fresh where
  visible := hvisible
  distinct := hdistinct
  uncalled := fun u hu c hc _ v _ n _ => ne_continuation (hplain u hu c hc) ⟨0, v.name⟩ n

theorem Sample.program_fresh : Sample.program.Fresh :=
  .of_plain (by decide) (by decide) (by decide)

/-! ## Units and their layouts -/

/-- The promoted templates of a unit are those of the layout `l` of its body. -/
structure LaidOut (capacity : Nat) (unit : Template) (u : PromotedUnit) (l : Layout) : Prop where
  joined : l.joined = unit.body
  numbers : Follow 0 l.numbers
  guarded : l.Guarded
  name : u.name = unit.name
  templates : u.templates =
    (l.templates ⟨capacity, unit.name⟩ unit.header).map (Template.promote u.promoted)

theorem Template.FittedTo.laidOut {capacity : Nat} {unit : Template} {u : PromotedUnit}
    (h : unit.FittedTo capacity u) : ∃ l, LaidOut capacity unit u l := by
  obtain ⟨ts, hfit, rfl⟩ := h
  obtain ⟨l, hjoined, hnum, hguard, rfl⟩ := layout_of_fit hfit
  exact ⟨l, hjoined, hnum, hguard, rfl, rfl⟩

theorem Program.names_of_fit {P : Program} {capacity : Nat} {out : FittedProgram}
    (h : P.fit capacity = .ok out) :
    out.units.map PromotedUnit.name = P.units.map Template.name := by
  have hunits := Program.units_of_fit h
  clear h
  generalize P.units = units, out.units = us at hunits ⊢
  induction hunits with
  | nil => rfl
  | cons hfit _ ih =>
    obtain ⟨ts, -, rfl⟩ := hfit
    simpa [promoteUnit] using ih

/-! ## Continuations among the templates of a unit -/

/-- The entry of a continuation. -/
def Template.entry (t : Template) : String × List Instruction := (t.name, t.body)

theorem ofTemplates_eq_map_filter (ts : List Template) :
    Continuations.ofTemplates ts =
      (ts.filter fun t => t.header.isContinuation).map Template.entry := by
  rw [Continuations.ofTemplates, ← List.filterMap_eq_map, List.filterMap_filter]
  rfl

theorem ofTemplates_flatMap (us : List PromotedUnit) :
    Continuations.ofTemplates (us.flatMap PromotedUnit.templates) =
      us.flatMap fun u => Continuations.ofTemplates u.templates := by
  rw [Continuations.ofTemplates, List.filterMap_flatMap]
  rfl

theorem Layout.header_of_mem_behind {p : Plot} {l : Layout} {t : Template}
    (ht : t ∈ l.behind p) : ∃ n ∈ l.numbers, t.header = .continuation (p.continuation n) := by
  have hmem : t.header ∈ p.headers l.numbers := by
    rw [← l.headers_behind p]
    exact List.mem_map_of_mem ht
  obtain ⟨n, hn, heq⟩ := List.mem_map.mp hmem
  exact ⟨n, hn, heq.symm⟩

theorem Layout.isContinuation_of_mem_behind {p : Plot} {l : Layout} {t : Template}
    (ht : t ∈ l.behind p) : t.header.isContinuation = true := by
  obtain ⟨n, -, hn⟩ := Layout.header_of_mem_behind ht
  rw [hn]
  rfl

theorem Layout.names_behind (p : Plot) (l : Layout) :
    (l.behind p).map Template.name = l.numbers.map p.continuation := by
  have hheaders := congrArg (List.map Header.unitName) (l.headers_behind p)
  rw [Plot.headers, List.map_map, List.map_map] at hheaders
  exact hheaders

namespace LaidOut

variable {capacity : Nat} {unit : Template} {u : PromotedUnit} {l : Layout}

/-- The continuations of a unit are the templates behind the first one. -/
theorem ofTemplates (h : LaidOut capacity unit u l)
    (hvisible : unit.header.isContinuation = false) :
    Continuations.ofTemplates u.templates =
      ((l.behind ⟨capacity, unit.name⟩).map (Template.promote u.promoted)).map Template.entry := by
  have hbehind : ∀ t ∈ (l.behind ⟨capacity, unit.name⟩).map (Template.promote u.promoted),
      t.header.isContinuation = true := by
    intro t ht
    obtain ⟨t', ht', rfl⟩ := List.mem_map.mp ht
    show t'.header.isContinuation = true
    exact Layout.isContinuation_of_mem_behind ht'
  rw [ofTemplates_eq_map_filter, h.templates, Layout.templates, List.map_cons,
    List.filter_cons_of_neg, List.filter_eq_self.mpr hbehind]
  show ¬ unit.header.isContinuation = true
  simp [hvisible]

theorem entryNames (h : LaidOut capacity unit u l)
    (hvisible : unit.header.isContinuation = false) :
    (Continuations.ofTemplates u.templates).map Prod.fst =
      l.numbers.map (Plot.continuation ⟨capacity, unit.name⟩) := by
  rw [h.ofTemplates hvisible, List.map_map, List.map_map]
  exact l.names_behind ⟨capacity, unit.name⟩

end LaidOut

/-! ## Finding continuations by name -/

namespace Continuations

theorem body?_of_mem {cs : Continuations} (hnames : (cs.map Prod.fst).Nodup) {name : String}
    {body : List Instruction} (h : (name, body) ∈ cs) : cs.body? name = some body := by
  unfold body?
  cases hfind : cs.reverse.find? fun c => c.1 = name with
  | none =>
    have := List.find?_eq_none.mp hfind (name, body) (List.mem_reverse.mpr h)
    simp at this
  | some c =>
    have hc : c ∈ cs := List.mem_reverse.mp (List.mem_of_find?_eq_some hfind)
    have hname : c.1 = name := by simpa using List.find?_some hfind
    have heq : c = (name, body) := List.inj_on_of_nodup_map hnames hc h hname
    rw [heq]
    rfl

theorem mem_of_body?_eq_some {cs : Continuations} {name : String} {body : List Instruction}
    (h : cs.body? name = some body) : (name, body) ∈ cs := by
  obtain ⟨c, hfind, rfl⟩ := Option.map_eq_some_iff.mp h
  have hname : c.1 = name := by simpa using List.find?_some hfind
  rw [← hname]
  exact List.mem_reverse.mp (List.mem_of_find?_eq_some hfind)

theorem body?_of_notMem {cs : Continuations} {name : String} (h : name ∉ cs.map Prod.fst) :
    cs.body? name = none := by
  unfold body?
  rw [Option.map_eq_none_iff, List.find?_eq_none]
  intro c hc hname
  refine h (List.mem_map.mpr ⟨c, List.mem_reverse.mp hc, ?_⟩)
  simpa using hname

end Continuations

/-! ## Continuations among the templates of a program -/

theorem nodup_of_follow {n : Nat} {ns : List Nat} (h : Follow n ns) : ns.Nodup := by
  rw [show ns = _ from h]
  exact List.nodup_range'

theorem pos_of_follow {n m : Nat} {ns : List Nat} (h : Follow n ns) (hm : m ∈ ns) : n < m := by
  rw [show ns = _ from h] at hm
  obtain ⟨k, -, rfl⟩ := List.mem_range'.mp hm
  omega

/-- A unit is no continuation of itself. -/
theorem unit_ne_continuation (p : Plot) (n : Nat) : p.unit ≠ p.continuation n := by
  intro h
  have hlength := congrArg (fun name => name.toList.length) h
  simp [continuation_toList] at hlength

/-- The templates of a unit have different names. -/
theorem Layout.nodup_names {unit : Template} {capacity : Nat} {l : Layout}
    (h : Follow 0 l.numbers) :
    ((l.templates ⟨capacity, unit.name⟩ unit.header).map Template.name).Nodup := by
  rw [Layout.templates, List.map_cons, l.names_behind, List.nodup_cons]
  constructor
  · intro hmem
    obtain ⟨n, -, heq⟩ := List.mem_map.mp hmem
    exact unit_ne_continuation ⟨capacity, unit.name⟩ n heq.symm
  · exact (nodup_of_follow h).map fun n m heq => (continuation_inj heq).2

section

variable {P : Program} {capacity : Nat} {out : FittedProgram}

/-- A unit of a fitted program with its source and its layout. -/
theorem Program.exists_laidOut (h : P.fit capacity = .ok out) {u : PromotedUnit}
    (hu : u ∈ out.units) : ∃ unit ∈ P.units, ∃ l, LaidOut capacity unit u l := by
  obtain ⟨unit, hunit, hfit⟩ := exists_of_mem_right (Program.units_of_fit h) hu
  exact ⟨unit, hunit, hfit.laidOut⟩

theorem entryName_cases (h : P.fit capacity = .ok out) (hfresh : P.Fresh) {name : String}
    (hname : name ∈ (Continuations.ofTemplates out.templates).map Prod.fst) :
    ∃ unit ∈ P.units, ∃ n, 1 ≤ n ∧ name = unit.name ++ "~" ++ toString n := by
  rw [FittedProgram.templates, ofTemplates_flatMap, List.map_flatMap] at hname
  obtain ⟨u, hu, hmem⟩ := List.mem_flatMap.mp hname
  obtain ⟨unit, hunit, l, hl⟩ := Program.exists_laidOut h hu
  rw [hl.entryNames (hfresh.visible unit hunit)] at hmem
  obtain ⟨n, hn, rfl⟩ := List.mem_map.mp hmem
  exact ⟨unit, hunit, n, pos_of_follow hl.numbers hn, rfl⟩

/-- No two continuations of a program have the same name. -/
theorem nodup_entryNames (h : P.fit capacity = .ok out) (hfresh : P.Fresh) :
    ((Continuations.ofTemplates out.templates).map Prod.fst).Nodup := by
  rw [FittedProgram.templates, ofTemplates_flatMap, List.map_flatMap, List.nodup_flatMap]
  constructor
  · intro u hu
    obtain ⟨unit, hunit, l, hl⟩ := Program.exists_laidOut h hu
    rw [hl.entryNames (hfresh.visible unit hunit)]
    exact (nodup_of_follow hl.numbers).map fun n m heq => (continuation_inj heq).2
  · have hnames : (out.units.map PromotedUnit.name).Nodup := by
      rw [Program.names_of_fit h]
      exact hfresh.distinct
    refine (List.pairwise_map.mp hnames).imp_of_mem ?_
    intro u v hu hv hne name hnu hnv
    dsimp only at hnu hnv
    obtain ⟨unit, hunit, l, hl⟩ := Program.exists_laidOut h hu
    obtain ⟨unit', hunit', l', hl'⟩ := Program.exists_laidOut h hv
    rw [hl.entryNames (hfresh.visible unit hunit)] at hnu
    rw [hl'.entryNames (hfresh.visible unit' hunit')] at hnv
    obtain ⟨n, -, rfl⟩ := List.mem_map.mp hnu
    obtain ⟨m, -, heq⟩ := List.mem_map.mp hnv
    exact hne (hl.name.trans ((continuation_inj heq).1.symm.trans hl'.name.symm))

/-- A call in the program is no call of a continuation. -/
theorem body?_of_call (h : P.fit capacity = .ok out) (hfresh : P.Fresh) {unit : Template}
    (hunit : unit ∈ P.units) {c : Call} (hc : c ∈ callsAll unit.body) (hkind : c.kind = .function) :
    (Continuations.ofTemplates out.templates).body? c.name = none := by
  apply Continuations.body?_of_notMem
  intro hname
  obtain ⟨v, hv, n, hn, heq⟩ := entryName_cases h hfresh hname
  exact hfresh.uncalled unit hunit c hc hkind v hv n hn heq

/-- A template behind the first one of a unit is found by its name. -/
theorem body?_of_mem_behind (h : P.fit capacity = .ok out) (hfresh : P.Fresh) {unit : Template}
    (hunit : unit ∈ P.units) {u : PromotedUnit} (hu : u ∈ out.units) {l : Layout}
    (hl : LaidOut capacity unit u l) {t : Template} (ht : t ∈ l.behind ⟨capacity, unit.name⟩) :
    (Continuations.ofTemplates out.templates).body? t.name = some (t.promote u.promoted).body := by
  apply Continuations.body?_of_mem (nodup_entryNames h hfresh)
  rw [FittedProgram.templates, ofTemplates_flatMap]
  refine List.mem_flatMap.mpr ⟨u, hu, ?_⟩
  rw [hl.ofTemplates (hfresh.visible unit hunit)]
  exact List.mem_map.mpr ⟨t.promote u.promoted, List.mem_map_of_mem ht, rfl⟩

/-- There are at least as many continuations in the program as in a unit. -/
theorem length_behind_le {unit : Template} (hvisible : unit.header.isContinuation = false)
    {u : PromotedUnit} (hu : u ∈ out.units) {l : Layout} (hl : LaidOut capacity unit u l) :
    (l.behind ⟨capacity, unit.name⟩).length ≤
      (Continuations.ofTemplates out.templates).length := by
  have hsub : (Continuations.ofTemplates u.templates).Sublist
      (Continuations.ofTemplates out.templates) := by
    rw [FittedProgram.templates, ofTemplates_flatMap, List.flatMap]
    exact List.sublist_flatten_of_mem (List.mem_map.mpr ⟨u, hu, rfl⟩)
  have hlength := hsub.length_le
  rw [hl.ofTemplates hvisible, List.length_map, List.length_map] at hlength
  exact hlength

end

end Plotline
