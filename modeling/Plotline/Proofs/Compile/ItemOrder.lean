import Mathlib.Tactic.Choose
import Plotline.Proofs.Wire.Overflow

/-!
# The order of items

What an item is compiled to does not depend on where it stands in the script: when the items are put
into another order, the script compiles as well, and every item has the same group of templates,
documents and promotions as before. Only the order of the groups changes (`compile_of_perm`).

An item sees the others through the definitions alone, and of these it only asks what a name stands
for (`Statement.lowerAll_congr`). No function or process is defined twice, so the answer is the same
in every order (`Script.definitions_of_perm`). Fitting, promotion and encoding look at one unit at a
time; the names that other units have promoted matter to collisions only.
-/

namespace Plotline

open Script

/-! ## Definitions that agree -/

/-- The definitions say the same about every name. -/
structure Definitions.Agrees (d d' : Definitions) : Prop where
  arity : ∀ name, d.arity? name = d'.arity? name
  processes : ∀ name, name ∈ d.processes ↔ name ∈ d'.processes

namespace Script

section

variable {d d' : Definitions}

theorem Statement.lower_congr (h : d.Agrees d') {x : Statement} (hx : x.isBracket = false)
    (inEvent inLoop : Bool) (c : Cursor) :
    x.lower ⟨d, inEvent, inLoop⟩ c = x.lower ⟨d', inEvent, inLoop⟩ c := by
  cases x with
  | branch b => cases hx
  | loop kind body bodySpan span => cases hx
  | call name args span =>
    unfold Statement.lower
    rw [h.arity name.name]
  | start name span =>
    unfold Statement.lower
    simp only [h.processes name.name]
  | declare v value span => cases value <;> rfl
  | wait duration tags span => cases duration <;> rfl
  | _ => rfl

theorem Otherwise.lower_congr {o : Otherwise} {s s' : Surroundings}
    (h : ∀ ys, o.body? = some ys → ∀ c, Statement.lowerAll ys s c = Statement.lowerAll ys s' c)
    (c : Cursor) : o.lower s c = o.lower s' c := by
  cases hys : o.body? with
  | none =>
    obtain rfl := eq_nothing hys
    rfl
  | some ys => rw [lower_of_body? hys, lower_of_body? hys, h ys hys]

theorem Statement.lowerAll_congr (h : d.Agrees d') (xs : List Statement) (inEvent inLoop : Bool)
    (c : Cursor) :
    lowerAll xs ⟨d, inEvent, inLoop⟩ c = lowerAll xs ⟨d', inEvent, inLoop⟩ c := by
  induction xs using Statement.body_induction generalizing inLoop c with
  | nil => rfl
  | simple x xs hx ih =>
    unfold lowerAll
    simp only [lower_congr h hx, ih]
  | branch condition body bodySpan other span xs ihbody ihother ih =>
    unfold lowerAll Statement.lower Branch.lower
    simp only [ihbody, ih, Otherwise.lower_congr fun ys hys c => ihother ys hys inLoop c]
  | loop kind body bodySpan span xs ihbody ih =>
    unfold lowerAll Statement.lower
    simp only [ihbody, ih]

theorem Item.lower_congr (h : d.Agrees d') (item : Item) : item.lower d = item.lower d' := by
  cases item with
  | event | function | process =>
    unfold Item.lower
    simp only [Statement.lowerAll_congr h]

end

/-- A script with the items in another order has the same definitions. -/
theorem definitions_of_perm {s s' : Script} {d : Definitions} (hperm : s'.items.Perm s.items)
    (hd : s.definitions = .ok d) : ∃ d', s'.definitions = .ok d' ∧ d.Agrees d' := by
  obtain ⟨hknown, hnodup⟩ := succeeds_definitions.mp ⟨d, hd⟩
  have hknown' : ∀ item ∈ s'.items, item.Known := by
    intro item hitem
    exact hknown item (hperm.mem_iff.mp hitem)
  obtain ⟨d', hd'⟩ :=
    succeeds_definitions.mpr ⟨hknown', (hperm.map Item.key).nodup_iff.mpr hnodup⟩
  have hof := definitions_of hd
  have hof' := definitions_of hd'
  refine ⟨d', hd', ?_, ?_⟩
  · intro name
    apply Option.ext
    intro n
    rw [hof.arity, hof'.arity]
    simp only [hperm.mem_iff]
  · intro name
    rw [hof.processes, hof'.processes]
    simp only [hperm.mem_iff]

end Script

/-! ## Groups -/

/-- What an item is compiled to: its unit, the templates of the unit, and their documents. -/
structure Group where
  unit : Template
  fitted : PromotedUnit
  documents : List Wire.Document

namespace Group

instance : Inhabited Group := ⟨⟨⟨.process "", []⟩, ⟨"", [], []⟩, []⟩⟩

def templates (g : Group) : List Template := g.fitted.templates

def promotions (g : Group) : List Promotion := g.fitted.promotions

def codes (g : Group) : List TemplateCode :=
  List.zipWith (fun t d => ⟨t.name, d.toJson.code⟩) g.templates g.documents

end Group

/-- The group is the item's own: it begins with the header of the item, goes on with continuations,
and has the documents of its templates and promotions under the name of the item. -/
structure Script.Item.Owns (item : Item) (g : Group) : Prop where
  header : g.unit.header = item.header
  templates : ∃ first rest, g.templates = first :: rest ∧ first.header = item.header ∧
    ∀ t ∈ rest, t.header.isContinuation = true
  documents : List.Forall₂ (fun t d => t.document = .ok d) g.templates g.documents
  promotions : ∀ p ∈ g.promotions, p.unit = item.header.unitName

/-- The compilation consists of the groups of the items, one after the other. -/
structure Compilation.Joins (c : Compilation) (items : List Item) (group : Item → Group) :
    Prop where
  units : c.program.units = items.map fun item => (group item).unit
  templates : c.templates = items.flatMap fun item => (group item).templates
  codes : c.codes = items.flatMap fun item => (group item).codes
  promotions : c.promotions = items.flatMap fun item => (group item).promotions

/-! ## Compiling item by item -/

/-- The item is lowered, fitted and encoded to the group. -/
structure Script.Item.CompiledTo (d : Definitions) (capacity : Nat) (item : Item) (g : Group) :
    Prop where
  lowered : item.lower d = .ok g.unit
  fitted : g.unit.FittedTo capacity g.fitted
  encoded : List.Forall₂ (fun t d => t.document = .ok d) g.templates g.documents

section

variable {d d' : Definitions} {capacity : Nat} {item : Item} {g : Group}

theorem Script.Item.CompiledTo.congr (h : item.CompiledTo d capacity g) (hd : d.Agrees d') :
    item.CompiledTo d' capacity g :=
  ⟨Item.lower_congr hd item ▸ h.lowered, h.fitted, h.encoded⟩

theorem Script.Item.CompiledTo.owns (h : item.CompiledTo d capacity g) : item.Owns g := by
  obtain ⟨hlowered, ⟨ts, hfit, hfitted⟩, hencoded⟩ := h
  have hheader := Item.header_of_lower hlowered
  obtain ⟨l, -, -, -, rfl⟩ := layout_of_fit hfit
  refine ⟨hheader, ?_, hencoded, ?_⟩
  · unfold Group.templates
    rw [hfitted]
    refine ⟨_, _, rfl, hheader, ?_⟩
    intro t ht
    obtain ⟨t', ht', rfl⟩ := List.mem_map.mp ht
    show t'.header.isContinuation = true
    exact Layout.isContinuation_of_mem_behind ht'
  · intro p hp
    unfold Group.promotions at hp
    rw [hfitted] at hp
    obtain ⟨x, -, rfl⟩ := List.mem_map.mp hp
    rw [← hheader]
    rfl

/-- The templates of a group have the codes of their documents. -/
theorem Script.Item.CompiledTo.ofTemplate (h : item.CompiledTo d capacity g) :
    List.Forall₂ (fun t code => TemplateCode.ofTemplate t = .ok code) g.templates g.codes := by
  have hencoded := h.encoded
  unfold Group.codes
  generalize g.templates = ts, g.documents = ds at hencoded ⊢
  induction hencoded with
  | nil => exact .nil
  | cons hdocument _ ih =>
    refine .cons ?_ ih
    rw [TemplateCode.ofTemplate, hdocument]
    rfl

end

namespace Script

/-- Every item of a compiled script has a group. -/
theorem exists_group_of_compile {s : Script} {tier : Tier} {c : Compilation}
    (h : s.compile tier = .ok c) :
    ∃ d, s.definitions = .ok d ∧ ∀ item ∈ s.items, ∃ g, item.CompiledTo d tier.capacity g := by
  obtain ⟨hlower, hfit, hpackage⟩ := stages_of_compile h
  obtain ⟨d, hd, hitems⟩ := forall₂_of_lower hlower
  refine ⟨d, hd, ?_⟩
  intro item hitem
  obtain ⟨unit, hunit, hlowered⟩ := exists_of_mem_right hitems.flip hitem
  obtain ⟨u, hu, hfitted⟩ := exists_of_mem_right (Program.units_of_fit hfit).flip hunit
  have hdocuments : ∀ t ∈ u.templates, Succeeds t.document := by
    intro t ht
    rw [Template.succeeds_document]
    exact Package.succeeds_ofTemplates.mp ⟨_, hpackage⟩ t (List.mem_flatMap.mpr ⟨u, hu, ht⟩)
  obtain ⟨documents, hmap⟩ := succeeds_mapM_iff.mpr hdocuments
  exact ⟨⟨unit, u, documents⟩, hlowered, hfitted, mapM_eq_ok hmap⟩

/-- A script whose items all have groups is compiled to these. -/
theorem compile_of_groups {s : Script} {tier : Tier} {d : Definitions} {group : Item → Group}
    (hd : s.definitions = .ok d)
    (h : ∀ item ∈ s.items, item.CompiledTo d tier.capacity (group item)) :
    ∃ c, s.compile tier = .ok c ∧ c.Joins s.items group := by
  have hlower : s.lower = .ok ⟨s.items.map fun item => (group item).unit⟩ := by
    have hunits : s.items.mapM (Item.lower d) =
        .ok (s.items.map fun item => (group item).unit) := by
      apply mapM_of_forall₂
      rw [List.forall₂_map_right_iff, List.forall₂_same]
      exact fun item hitem => (h item hitem).lowered
    rw [Script.lower, hd, ok_bind, hunits]
    rfl
  have hfitted : List.Forall₂ (Template.FittedTo tier.capacity)
      (s.items.map fun item => (group item).unit)
      (s.items.map fun item => (group item).fitted) := by
    rw [List.forall₂_map_left_iff, List.forall₂_map_right_iff, List.forall₂_same]
    exact fun item hitem => (h item hitem).fitted
  obtain ⟨f, hfit, hf⟩ := Program.fit_of_units (P := ⟨_⟩) hfitted
  have htemplates : f.templates = s.items.flatMap fun item => (group item).templates := by
    rw [FittedProgram.templates, hf, List.flatMap_map]
    rfl
  have hcodes : f.templates.mapM TemplateCode.ofTemplate =
      .ok (s.items.flatMap fun item => (group item).codes) := by
    apply mapM_of_forall₂
    rw [htemplates]
    clear hd hlower hfitted hfit hf htemplates
    generalize s.items = items at h ⊢
    induction items with
    | nil => exact .nil
    | cons item items ih =>
      rw [List.forall_mem_cons] at h
      exact List.rel_append h.1.ofTemplate (ih h.2)
  have hpackage : Package.ofTemplates f.templates =
      .ok ⟨s.items.flatMap fun item => (group item).codes⟩ := by
    rw [Package.ofTemplates, hcodes]
    rfl
  refine ⟨⟨_, f, _⟩, ?_, rfl, htemplates, rfl, ?_⟩
  · rw [compile_eq hlower hfit, hpackage]
    rfl
  · show f.promotions = _
    rw [FittedProgram.promotions, hf, List.flatMap_map]
    rfl

end Script

/-- **Order of items.** Every item of a compiled script has a group of templates, documents and
promotions of its own. With its items in any other order the script is compiled too, and consists of
the same groups in the new order. -/
theorem compile_of_perm {s : Script} {tier : Tier} {c : Compilation} (h : s.compile tier = .ok c) :
    ∃ group : Item → Group, (∀ item ∈ s.items, item.Owns (group item)) ∧ c.Joins s.items group ∧
      ∀ s' : Script, s'.items.Perm s.items →
        ∃ c', s'.compile tier = .ok c' ∧ c'.Joins s'.items group := by
  obtain ⟨d, hd, hgroups⟩ := Script.exists_group_of_compile h
  choose! group hgroup using hgroups
  obtain ⟨c₀, hc₀, hjoins⟩ := Script.compile_of_groups hd hgroup
  -- compiling is a function, so the groups of the items make up the given compilation
  obtain rfl : c₀ = c := Except.ok.inj (hc₀.symm.trans h)
  refine ⟨group, fun item hitem => (hgroup item hitem).owns, hjoins, ?_⟩
  intro s' hperm
  obtain ⟨d', hd', hagrees⟩ := Script.definitions_of_perm hperm hd
  apply Script.compile_of_groups hd'
  intro item hitem
  exact (hgroup item (hperm.mem_iff.mp hitem)).congr hagrees


namespace Sample

/-- A function with a parameter, and an event that calls it with a variable of its own, after more
waiting than one template holds. -/
def relayItems : List Item :=
  [.function ⟨"f", .unknown⟩ [⟨"p", .unknown⟩]
      [.assign ⟨⟨"p", .unknown⟩, none⟩ .add (.variable ⟨⟨"p", .unknown⟩, none⟩ .unknown) .unknown]
      .unknown .unknown,
    .event .player ⟨"Join", .unknown⟩
      (.declare ⟨⟨"n", .unknown⟩, none⟩ (some (.gameValue ⟨"Health", .unknown⟩ none .unknown))
          .unknown ::
        (List.replicate 48 (.wait none [] .unknown) ++
          [.call ⟨"f", .unknown⟩ [.variable ⟨⟨"n", .unknown⟩, none⟩ .unknown] .unknown]))
      .unknown .unknown]

def relay : Script := ⟨relayItems, .unknown⟩

def ticks : Instruction :=
  .action ⟨.control, "Wait", [.tag ⟨"Wait", "Time Unit", "Ticks", "control"⟩], none⟩

def relayFunction : Template :=
  ⟨.function "f" ["p"] false,
    [.action ⟨.setVar, "+=", [.var "p" .thread, .var "p" .thread], none⟩]⟩

/-- The variable of the event, set to a value of the game. -/
def relaySet (scope : Scope) : Instruction :=
  .action ⟨.setVar, "=", [.var "n" scope, .gameValue ⟨"Health", .default⟩], none⟩

def relayProgram : Program :=
  ⟨[relayFunction,
    ⟨.event .player "Join",
      relaySet .line :: (List.replicate 48 ticks ++ [.call ⟨.function, "f", [.var "n" .line]⟩])⟩]⟩

def relayFitted : FittedProgram :=
  ⟨[⟨"f", [relayFunction], []⟩,
    ⟨"event.Join",
      [⟨.event .player "Join",
          relaySet .game :: (List.replicate 47 ticks ++ [.call (.link "event.Join~1")])⟩,
        ⟨.continuation "event.Join~1", [ticks, .call ⟨.function, "f", [.var "n" .game]⟩]⟩],
      ["n"]⟩], []⟩

theorem lower_relay : relay.lower = .ok relayProgram := by
  decide +kernel

theorem fit_relay : relayProgram.fit Tier.basic.capacity = .ok relayFitted := by
  cbv

end Sample

/-- The event is cut in two and its variable promoted, behind the function as well as before it. -/
theorem compile_of_perm_relay :
    ∃ c c', Sample.relay.compile .basic = .ok c ∧ c.fitted = Sample.relayFitted ∧
      Script.compile ⟨Sample.relayItems.reverse, .unknown⟩ .basic = .ok c' ∧
      ∃ group : Item → Group, (∀ item ∈ Sample.relayItems, item.Owns (group item)) ∧
        c.Joins Sample.relayItems group ∧ c'.Joins Sample.relayItems.reverse group := by
  obtain ⟨c, hc, hfitted⟩ :=
    Script.compile_of_narrow Sample.lower_relay Sample.fit_relay (by decide)
  obtain ⟨group, howns, hjoins, hperm⟩ := compile_of_perm hc
  obtain ⟨c', hc', hjoins'⟩ := hperm ⟨Sample.relayItems.reverse, .unknown⟩ (List.reverse_perm _)
  exact ⟨c, c', hc, hfitted, hc', group, howns, hjoins, hjoins'⟩

end Plotline
