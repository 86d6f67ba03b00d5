import Plotline.Compile.Compilation
import Plotline.Proofs.Fitting.Layout
import Plotline.Proofs.Lowering.Conformance

/-!
# Blocks that hold their values

A template can be encoded if all its blocks hold their values (`Template.succeeds_document`). Blocks
with an entry in the catalog always do, since lowering leaves room for their tags. A call has as
many arguments as its function has parameters, and links have none. So only the headers of
functions are left to overflow, and fitting makes no new ones: a script that can be lowered and
fitted can be compiled unless one of its functions has more than 25 parameters.
-/

namespace Plotline

open Instruction

/-! ## Encoding -/

mutual

/-- Every block of the instruction holds its values. -/
def Instruction.Holds : Instruction → Prop
  | .action a => a.args.length ≤ chestSlots
  | .call c => c.args.length ≤ chestSlots
  | .bracket head setup body none =>
    HoldsAll setup ∧ head.args.length ≤ chestSlots ∧ HoldsAll body
  | .bracket head setup body (some rest) =>
    HoldsAll setup ∧ head.args.length ≤ chestSlots ∧ HoldsAll body ∧ HoldsAll rest

def Instruction.HoldsAll : List Instruction → Prop
  | [] => True
  | i :: is => i.Holds ∧ HoldsAll is

end

theorem Instruction.holdsAll_append {is js : List Instruction} :
    HoldsAll (is ++ js) ↔ HoldsAll is ∧ HoldsAll js := by
  induction is with
  | nil => simp [HoldsAll]
  | cons i is ih => simp only [List.cons_append, HoldsAll, ih, and_assoc]

/-- The parameters in a header. -/
def Header.params : Header → List String
  | .function _ params _ => params
  | .event .. | .process _ => []

namespace Wire

theorem succeeds_items {name : String} {values : List Value} :
    Succeeds (items name values) ↔ values.length ≤ chestSlots := by
  rw [items]
  split
  · exact iff_of_false (not_succeeds_error _) (by omega)
  · exact iff_of_true (succeeds_ok _) (by omega)

theorem succeeds_headerBlock {header : Header} :
    Succeeds (headerBlock header) ↔ header.params.length ≤ hiddenSlot := by
  cases header with
  | event kind name => exact iff_of_true (succeeds_ok _) (Nat.zero_le _)
  | function name params hidden =>
    rw [headerBlock, Header.params]
    split
    · exact iff_of_false (not_succeeds_error _) (by omega)
    · exact iff_of_true (succeeds_ok _) (by omega)
  | process name => exact iff_of_true (succeeds_ok _) (Nat.zero_le _)

theorem succeeds_headBlock {head : Head} :
    Succeeds (headBlock head) ↔ head.args.length ≤ chestSlots := by
  cases head with
  | branch c => exact succeeds_bind_pure.trans succeeds_items
  | loop l => exact succeeds_bind_pure.trans succeeds_items

mutual

theorem succeeds_blocks : ∀ i : Instruction, Succeeds (blocks i) ↔ i.Holds
  | .action a => by
    rw [blocks, Instruction.Holds]
    exact succeeds_bind_pure.trans succeeds_items
  | .call c => by
    rw [blocks, Instruction.Holds]
    exact succeeds_bind_pure.trans (succeeds_bind_pure.trans succeeds_items)
  | .bracket head setup body none => by
    rw [blocks, Instruction.Holds, ← succeeds_blocksAll setup, ← succeeds_headBlock,
      ← succeeds_blocksAll body]
    exact succeeds_bind_iff fun _ _ => succeeds_bind_iff fun _ _ => succeeds_bind_pure
  | .bracket head setup body (some rest) => by
    rw [blocks, Instruction.Holds, ← succeeds_blocksAll setup, ← succeeds_headBlock,
      ← succeeds_blocksAll body, ← succeeds_blocksAll rest]
    exact succeeds_bind_iff fun _ _ => succeeds_bind_iff fun _ _ => succeeds_bind_iff fun _ _ =>
      succeeds_bind_pure

theorem succeeds_blocksAll : ∀ is : List Instruction, Succeeds (blocksAll is) ↔ HoldsAll is
  | [] => by
    rw [blocksAll, HoldsAll]
    exact iff_of_true (succeeds_ok _) trivial
  | i :: is => by
    rw [blocksAll, HoldsAll, ← succeeds_blocks i, ← succeeds_blocksAll is]
    exact succeeds_bind_iff fun _ _ => succeeds_bind_pure

end

end Wire

/-- All blocks of a template hold their values. -/
def Template.Holds (t : Template) : Prop :=
  t.header.params.length ≤ Wire.hiddenSlot ∧ HoldsAll t.body

theorem Template.succeeds_document {t : Template} : Succeeds t.document ↔ t.Holds := by
  rw [Holds, ← Wire.succeeds_headerBlock, ← Wire.succeeds_blocksAll]
  exact succeeds_bind_iff fun _ _ => succeeds_bind_pure

theorem Package.succeeds_ofTemplates {ts : List Template} :
    Succeeds (Package.ofTemplates ts) ↔ ∀ t ∈ ts, t.Holds := by
  refine succeeds_bind_pure.trans (succeeds_mapM_iff.trans ?_)
  refine forall₂_congr fun t _ => ?_
  exact succeeds_bind_pure.trans Template.succeeds_document

/-! ## Fitting -/

theorem holdsAll_link (p : Plot) (n : Nat) : HoldsAll [p.link n] := by
  simp [HoldsAll, Instruction.Holds, Plot.link, Call.link]

mutual

/-- Cutting adds links only, which have no arguments. -/
theorem Layout.holds (p : Plot) : ∀ l : Layout, HoldsAll l.joined →
    HoldsAll (l.held p) ∧ ∀ t ∈ l.behind p, t.Holds
  | .done, h => ⟨h, by simp [Layout.behind]⟩
  | .node i rest, h => by
    rw [Layout.joined, HoldsAll] at h
    obtain ⟨hheld, hbehind⟩ := rest.holds p h.2
    rw [Layout.held, HoldsAll]
    exact ⟨⟨h.1, hheld⟩, hbehind⟩
  | .cut b rest, h => by
    rw [Layout.joined, HoldsAll] at h
    obtain ⟨hheld, hbehind⟩ := b.holds p h.1
    obtain ⟨hrest, hrestBehind⟩ := rest.holds p h.2
    rw [Layout.held, HoldsAll, Layout.behind, List.forall_mem_append]
    exact ⟨⟨hheld, hrest⟩, hbehind, hrestBehind⟩
  | .next n rest, h => by
    obtain ⟨hheld, hbehind⟩ := rest.holds p h
    rw [Layout.held, Layout.behind, List.forall_mem_cons]
    exact ⟨holdsAll_link p n, ⟨Nat.zero_le _, hheld⟩, hbehind⟩

theorem CutBracket.holds (p : Plot) : ∀ b : CutBracket, b.joined.Holds →
    (b.held p).Holds ∧ ∀ t ∈ b.behind p, t.Holds
  | .single head setup body, h => by
    rw [CutBracket.joined, Instruction.Holds] at h
    obtain ⟨hheld, hbehind⟩ := body.holds p h.2.2
    rw [CutBracket.held, Instruction.Holds]
    exact ⟨⟨h.1, h.2.1, hheld⟩, hbehind⟩
  | .double head setup body other, h => by
    rw [CutBracket.joined, Instruction.Holds] at h
    obtain ⟨hheld, hbehind⟩ := body.holds p h.2.2.1
    obtain ⟨hother, hotherBehind⟩ := other.holds p h.2.2.2
    rw [CutBracket.held, Instruction.Holds, CutBracket.behind, List.forall_mem_append]
    exact ⟨⟨h.1, h.2.1, hheld, hother⟩, hbehind, hotherBehind⟩

theorem CutBody.holds (p : Plot) : ∀ b : CutBody, HoldsAll b.joined →
    HoldsAll (b.held p) ∧ ∀ t ∈ b.behind p, t.Holds
  | .whole is, h => ⟨h, by simp [CutBody.behind]⟩
  | .split kept n rest, h => by
    obtain ⟨hkept, hrest⟩ := holdsAll_append.mp h
    obtain ⟨hheld, hbehind⟩ := rest.holds p hrest
    rw [CutBody.held, CutBody.behind, List.forall_mem_cons, holdsAll_append]
    exact ⟨⟨hkept, holdsAll_link p n⟩, ⟨Nat.zero_le _, hheld⟩, hbehind⟩

end

mutual

theorem Instruction.holds_mapValues (f : Value → Value) : ∀ i : Instruction,
    (i.mapValues f).Holds ↔ i.Holds
  | .action a => by simp [mapValues, Holds]
  | .call c => by simp [mapValues, Holds]
  | .bracket head setup body none => by
    have hargs : (head.mapArgs f).args.length = head.args.length := by
      cases head <;> simp [Head.mapArgs, Head.args]
    rw [mapValues, Holds, Holds, hargs, holdsAll_mapValuesAll f setup,
      holdsAll_mapValuesAll f body]
  | .bracket head setup body (some rest) => by
    have hargs : (head.mapArgs f).args.length = head.args.length := by
      cases head <;> simp [Head.mapArgs, Head.args]
    rw [mapValues, Holds, Holds, hargs, holdsAll_mapValuesAll f setup,
      holdsAll_mapValuesAll f body, holdsAll_mapValuesAll f rest]

theorem Instruction.holdsAll_mapValuesAll (f : Value → Value) : ∀ is : List Instruction,
    HoldsAll (mapValuesAll f is) ↔ HoldsAll is
  | [] => by rw [mapValuesAll]
  | i :: is => by
    rw [mapValuesAll, HoldsAll, HoldsAll, holds_mapValues f i, holdsAll_mapValuesAll f is]

end

theorem Template.holds_promote {names : List String} {t : Template} :
    (t.promote names).Holds ↔ t.Holds := and_congr_right fun _ => holdsAll_mapValuesAll _ t.body

/-- The first template of a unit has its header, and no other header has parameters. -/
theorem Template.FittedTo.params_le {capacity : Nat} {unit : Template} {u : PromotedUnit}
    (h : unit.FittedTo capacity u) (hholds : ∀ t ∈ u.templates, t.Holds) :
    unit.header.params.length ≤ Wire.hiddenSlot := by
  obtain ⟨ts, hfit, rfl⟩ := h
  obtain ⟨l, -, -, -, rfl⟩ := layout_of_fit hfit
  exact (hholds _ List.mem_cons_self).1

theorem Template.FittedTo.holds {capacity : Nat} {unit : Template} {u : PromotedUnit}
    (h : unit.FittedTo capacity u) (hunit : unit.Holds) : ∀ t ∈ u.templates, t.Holds := by
  obtain ⟨ts, hfit, rfl⟩ := h
  obtain ⟨l, hjoined, -, -, rfl⟩ := layout_of_fit hfit
  obtain ⟨hparams, hbody⟩ := hunit
  rw [← hjoined] at hbody
  obtain ⟨hheld, hbehind⟩ := l.holds ⟨capacity, unit.name⟩ hbody
  have htemplates : ∀ t ∈ l.templates ⟨capacity, unit.name⟩ unit.header, t.Holds := by
    rw [Layout.templates, List.forall_mem_cons]
    exact ⟨⟨hparams, hheld⟩, hbehind⟩
  rw [promoteUnit, List.forall_mem_map]
  exact fun t ht => Template.holds_promote.mpr (htemplates t ht)

/-! ## Lowered code -/

mutual

theorem Instruction.holds_of_blocks : ∀ {i : Instruction},
    (∀ x ∈ i.blocks, x.args.length ≤ chestSlots) → (∀ c ∈ i.calls, c.args.length ≤ chestSlots) →
    i.Holds
  | .action a, hblocks, _ => by
    rw [Holds]
    exact hblocks (.action a) (by simp [blocks])
  | .call c, _, hcalls => by
    rw [Holds]
    exact hcalls c (by simp [Instruction.calls])
  | .bracket head setup body none, hblocks, hcalls => by
    simp only [blocks, List.forall_mem_append, List.forall_mem_cons] at hblocks
    simp only [Instruction.calls, List.forall_mem_append] at hcalls
    rw [Holds]
    exact ⟨holdsAll_of_blocks hblocks.1 hcalls.1, hblocks.2.1,
      holdsAll_of_blocks hblocks.2.2 hcalls.2⟩
  | .bracket head setup body (some rest), hblocks, hcalls => by
    simp only [blocks, List.forall_mem_append, List.forall_mem_cons] at hblocks
    simp only [Instruction.calls, List.forall_mem_append] at hcalls
    rw [Holds]
    exact ⟨holdsAll_of_blocks hblocks.1 hcalls.1.1, hblocks.2.1,
      holdsAll_of_blocks hblocks.2.2.1 hcalls.1.2, holdsAll_of_blocks hblocks.2.2.2 hcalls.2⟩

theorem Instruction.holdsAll_of_blocks : ∀ {is : List Instruction},
    (∀ x ∈ blocksAll is, x.args.length ≤ chestSlots) →
    (∀ c ∈ callsAll is, c.args.length ≤ chestSlots) → HoldsAll is
  | [], _, _ => by
    rw [HoldsAll]
    trivial
  | i :: is, hblocks, hcalls => by
    simp only [blocksAll, List.forall_mem_append] at hblocks
    simp only [callsAll, List.forall_mem_append] at hcalls
    rw [HoldsAll]
    exact ⟨holds_of_blocks hblocks.1 hcalls.1, holdsAll_of_blocks hblocks.2 hcalls.2⟩

end

theorem Conforms.length_args_le {u : Script.Use} {x : CatalogBlock} (h : Conforms u x) :
    x.args.length ≤ chestSlots := by
  obtain ⟨-, s, plain, tags, -, hargs, hfills⟩ := h
  rw [hargs]
  exact hfills.room

/-- Where no function has too many parameters, no call has too many arguments. -/
theorem Emits.holdsAll {d : Definitions} {us : List Script.Use} {is : List Instruction}
    (h : Emits d us is) (hd : ∀ name n, d.arity? name = some n → n ≤ Wire.hiddenSlot) :
    HoldsAll is := by
  refine holdsAll_of_blocks ?_ ?_
  · intro x hx
    obtain ⟨u, -, hconforms⟩ := exists_of_mem_right h.conforms hx
    exact hconforms.length_args_le
  · intro c hc
    have hagrees := h.calls c hc
    rw [Call.Agrees] at hagrees
    split at hagrees
    · exact Nat.le_trans (hd c.name _ hagrees) (by decide)
    · rw [hagrees]
      exact Nat.zero_le _

/-! ## Compilation -/

namespace Script

/-- Some function has more parameters than the header of a function has slots for. -/
def HasWideFunction (s : Script) : Prop := ∃ f ∈ s.items.filterMap Item.function?, 25 < f.2

instance (s : Script) : Decidable s.HasWideFunction :=
  inferInstanceAs (Decidable (∃ f ∈ s.items.filterMap Item.function?, _))

theorem Item.length_params_of_function? {item : Item} {f : String × Nat}
    (h : item.function? = some f) : item.header.params.length = f.2 := by
  cases item with
  | function =>
    cases h
    exact List.length_map _
  | event => cases h
  | process => cases h

theorem Item.function?_of_params {item : Item} (h : item.header.params ≠ []) :
    ∃ name, item.function? = some (name, item.header.params.length) := by
  cases item with
  | function name params =>
    refine ⟨name.name, ?_⟩
    rw [Item.function?, Item.header, Header.params, List.length_map]
  | event => exact absurd rfl h
  | process => exact absurd rfl h

section

variable {s : Script} {P : Program} {capacity : Nat} {f : FittedProgram}

/-- The templates of a script hold their values unless a function has too many parameters. -/
theorem holds_templates_iff (hlower : s.lower = .ok P) (hfit : P.fit capacity = .ok f) :
    (∀ t ∈ f.templates, t.Holds) ↔ ¬ s.HasWideFunction := by
  obtain ⟨d, hd, hitems⟩ := forall₂_of_lower hlower
  have hunits := Program.units_of_fit hfit
  have hflat : (∀ t ∈ f.templates, t.Holds) ↔ ∀ u ∈ f.units, ∀ t ∈ u.templates, t.Holds := by
    simp only [FittedProgram.templates, List.mem_flatMap]
    constructor
    · intro h u hu t ht
      exact h t ⟨u, hu, ht⟩
    · rintro h t ⟨u, hu, ht⟩
      exact h u hu t ht
  rw [hflat]
  constructor
  · rintro hholds ⟨g, hg, hwide⟩
    obtain ⟨item, hitem, hfunction⟩ := List.mem_filterMap.mp hg
    obtain ⟨unit, hunit, hlowered⟩ := exists_of_mem_right hitems.flip hitem
    obtain ⟨u, hu, hfitted⟩ := exists_of_mem_right hunits.flip hunit
    have hparams := Template.FittedTo.params_le hfitted (hholds u hu)
    rw [Item.header_of_lower hlowered, Item.length_params_of_function? hfunction] at hparams
    exact absurd hparams (Nat.not_le.mpr hwide)
  · intro hnarrow u hu
    obtain ⟨unit, hunit, hfitted⟩ := exists_of_mem_right hunits hu
    obtain ⟨item, hitem, hlowered⟩ := exists_of_mem_right hitems hunit
    have hnarrow' : ∀ item ∈ s.items, ∀ name n, item.function? = some (name, n) →
        n ≤ Wire.hiddenSlot := by
      intro item hitem name n hfunction
      by_contra hwide
      exact hnarrow ⟨_, List.mem_filterMap.mpr ⟨item, hitem, hfunction⟩, Nat.not_le.mp hwide⟩
    refine Template.FittedTo.holds hfitted ⟨?_, ?_⟩
    · rw [Item.header_of_lower hlowered]
      by_cases hparams : item.header.params = []
      · rw [hparams]
        exact Nat.zero_le _
      · obtain ⟨name, hfunction⟩ := Item.function?_of_params hparams
        exact hnarrow' item hitem name _ hfunction
    · refine (Item.emits hlowered).holdsAll fun name n harity => ?_
      obtain ⟨item', hitem', hfunction⟩ := ((definitions_of hd).arity name n).mp harity
      exact hnarrow' item' hitem' name n hfunction

end

end Script

/-- After lowering and fitting only encoding is left. -/
theorem Script.compile_eq {s : Script} {tier : Tier} {P : Program} {f : FittedProgram}
    (hlower : s.lower = .ok P) (hfit : P.fit tier.capacity = .ok f) :
    s.compile tier =
      match Package.ofTemplates f.templates with
      | .ok package => .ok ⟨P, f, package⟩
      | .error e => .error (.encoding e) := by
  have hsteps : s.compile tier = (do
      let package ← (Package.ofTemplates f.templates).mapError .encoding
      return ⟨P, f, package⟩) := by
    rw [compile, hlower]
    change (P.fit tier.capacity).mapError CompileError.fitting >>= _ = _
    rw [hfit]
    rfl
  rw [hsteps]
  cases Package.ofTemplates f.templates <;> rfl

/-- Without a wide function nothing goes wrong after fitting. -/
theorem Script.compile_of_narrow {s : Script} {tier : Tier} {P : Program} {f : FittedProgram}
    (hlower : s.lower = .ok P) (hfit : P.fit tier.capacity = .ok f)
    (hnarrow : ¬ s.HasWideFunction) : ∃ c, s.compile tier = .ok c ∧ c.fitted = f := by
  have hholds := (holds_templates_iff hlower hfit).mpr hnarrow
  obtain ⟨package, hpackage⟩ := Package.succeeds_ofTemplates.mpr hholds
  rw [compile_eq hlower hfit, hpackage]
  exact ⟨_, rfl, rfl⟩

/-- What a compilation consists of: what lowering, fitting and encoding give, one after the
other. -/
theorem Script.stages_of_compile {s : Script} {tier : Tier} {c : Compilation}
    (h : s.compile tier = .ok c) :
    s.lower = .ok c.program ∧ c.program.fit tier.capacity = .ok c.fitted ∧
      Package.ofTemplates c.templates = .ok c.package := by
  obtain ⟨P, hlower, hrest⟩ := bind_eq_ok h
  obtain ⟨f, hfit, hrest⟩ := bind_eq_ok hrest
  obtain ⟨package, hpackage, hret⟩ := bind_eq_ok hrest
  cases hret
  exact ⟨mapError_eq_ok hlower, mapError_eq_ok hfit, mapError_eq_ok hpackage⟩

/-- The code of a template is that of its document. -/
def Template.CodedAs (t : Template) (code : TemplateCode) : Prop :=
  ∃ d, t.document = .ok d ∧ code = ⟨t.name, d.toJson.code⟩

theorem Package.codes_of_ofTemplates {ts : List Template} {package : Package}
    (h : Package.ofTemplates ts = .ok package) :
    List.Forall₂ Template.CodedAs ts package.templates := by
  obtain ⟨codes, hcodes, hret⟩ := bind_eq_ok h
  cases hret
  refine (mapM_eq_ok hcodes).imp ?_
  intro t code hcode
  obtain ⟨d, hd, hret⟩ := bind_eq_ok hcode
  cases hret
  exact ⟨d, hd, rfl⟩

/-- A script that can be lowered and fitted overflows in encoding if and only if one of its
functions has more than 25 parameters; otherwise it is compiled. -/
theorem overflows_iff_hasWideFunction {s : Script} {tier : Tier} {P : Program}
    {f : FittedProgram} (hlower : s.lower = .ok P) (hfit : P.fit tier.capacity = .ok f) :
    ((∃ block count, Package.ofTemplates f.templates = .error (.slotOverflow block count)) ↔
        s.HasWideFunction) ∧
      ((∃ block count, s.compile tier = .error (.encoding (.slotOverflow block count))) ↔
        s.HasWideFunction) ∧
      ((∃ c, s.compile tier = .ok c) ↔ ¬ s.HasWideFunction) := by
  have hholds := Script.holds_templates_iff hlower hfit
  rw [← Package.succeeds_ofTemplates] at hholds
  rw [Script.compile_eq hlower hfit]
  cases hpackage : Package.ofTemplates f.templates with
  | ok package =>
    have hnarrow : ¬ s.HasWideFunction := hholds.mp ⟨package, hpackage⟩
    simp [hnarrow]
  | error e =>
    have hwide : s.HasWideFunction := by
      by_contra hnarrow
      obtain ⟨package, hok⟩ := hholds.mpr hnarrow
      rw [hpackage] at hok
      cases hok
    obtain ⟨block, count⟩ := e
    simp [hwide]

namespace Sample

/-- A function with `n` parameters, and an event that calls it. -/
def caller (n : Nat) : Script :=
  ⟨[.function ⟨"f", .unknown⟩ (List.replicate n ⟨"p", .unknown⟩) [] .unknown .unknown,
    .event .player ⟨"Join", .unknown⟩
      [.call ⟨"f", .unknown⟩ (List.replicate n (.gameValue ⟨"Health", .unknown⟩ none .unknown))
        .unknown] .unknown .unknown],
    .unknown⟩

def callerTemplates (n : Nat) : List Template := [
  ⟨.function "f" (List.replicate n "p") false, []⟩,
  ⟨.event .player "Join",
    [.call ⟨.function, "f", List.replicate n (.gameValue ⟨"Health", .default⟩)⟩]⟩]

def callerFitted (n : Nat) : FittedProgram :=
  ⟨(callerTemplates n).map fun t => ⟨t.name, [t], []⟩, []⟩

theorem lower_caller : (caller 25).lower = .ok ⟨callerTemplates 25⟩ ∧
    (caller 26).lower = .ok ⟨callerTemplates 26⟩ := by
  decide +kernel

theorem fit_caller :
    Program.fit ⟨callerTemplates 25⟩ Tier.basic.capacity = .ok (callerFitted 25) ∧
      Program.fit ⟨callerTemplates 26⟩ Tier.basic.capacity = .ok (callerFitted 26) := by
  constructor <;> cbv

end Sample

/-- A function with 25 parameters is compiled, one with 26 overflows. -/
theorem overflows_caller :
    ((Sample.caller 25).lower = .ok ⟨Sample.callerTemplates 25⟩ ∧
        Program.fit ⟨Sample.callerTemplates 25⟩ Tier.basic.capacity =
          .ok (Sample.callerFitted 25) ∧
        ∃ c, (Sample.caller 25).compile .basic = .ok c) ∧
      (Sample.caller 26).lower = .ok ⟨Sample.callerTemplates 26⟩ ∧
        Program.fit ⟨Sample.callerTemplates 26⟩ Tier.basic.capacity =
          .ok (Sample.callerFitted 26) ∧
        ∃ block count,
          (Sample.caller 26).compile .basic = .error (.encoding (.slotOverflow block count)) := by
  obtain ⟨hlower, hlower'⟩ := Sample.lower_caller
  obtain ⟨hfit, hfit'⟩ := Sample.fit_caller
  have hnarrow := overflows_iff_hasWideFunction hlower hfit
  have hwide := overflows_iff_hasWideFunction hlower' hfit'
  exact ⟨⟨hlower, hfit, hnarrow.2.2.mpr (by decide)⟩, hlower', hfit', hwide.2.1.mpr (by decide)⟩

end Plotline
