import Plotline.Proofs.Outcome
import Plotline.Proofs.Wire.Records
import Plotline.Wire.Document

/-!
# The blocks of a template

When a template has a document, the blocks of it are those of `flat` and `flatAll`, where no chest
can overflow (`Template.blocks_of_document`). Blocks with finite values are known from their trees
(`Document.toJson_inj`).
-/

namespace Plotline.Wire

/-! ## Blocks that do not overflow -/

/-- Values in the slots that they get. -/
def chest (values : List Value) : List Item := place 0 lastSlot values

theorem items_eq_ok {name : String} {values : List Value} {is : List Item}
    (h : items name values = .ok is) : is = chest values := by
  rw [items] at h
  split at h
  · cases h
  · exact (Except.ok.inj h).symm

def flatHeader : Header → Block
  | .event kind name => .event kind name
  | .function name params hidden =>
    .named .function name
      ((params.zipIdx.map fun (param, slot) => ⟨.param param, slot⟩) ++ [hiddenTag hidden])
  | .process name => .named .process name [hiddenTag false]

def flatHead : Head → Block
  | .branch c => .step c.block c.name (chest c.args) c.target none c.inverted
  | .loop l => .step .loop l.name (chest l.args) none l.subAction l.inverted

/-- The category of the block of a call. -/
def callBlockKind : CallKind → BlockKind
  | .function => .callFunction
  | .process => .startProcess

mutual

/-- The blocks of an instruction. -/
def flat : Instruction → List Block
  | .action a => [.step a.block a.name (chest a.args) a.target none false]
  | .call c => [.named (callBlockKind c.kind) c.name (chest c.args)]
  | .bracket head setup body none =>
    flatAll setup ++ flatHead head :: .marker true head.isLoop ::
      (flatAll body ++ [.marker false head.isLoop])
  | .bracket head setup body (some rest) =>
    flatAll setup ++ flatHead head :: .marker true head.isLoop ::
      (flatAll body ++ .marker false head.isLoop :: .otherwise :: .marker true false ::
        (flatAll rest ++ [.marker false false]))

def flatAll : List Instruction → List Block
  | [] => []
  | i :: is => flat i ++ flatAll is

end

theorem headerBlock_eq_ok {header : Header} {b : Block} (h : headerBlock header = .ok b) :
    b = flatHeader header := by
  cases header with
  | event kind name => exact (Except.ok.inj h).symm
  | function name params hidden =>
    rw [headerBlock] at h
    split at h
    · cases h
    · exact (Except.ok.inj h).symm
  | process name => exact (Except.ok.inj h).symm

theorem headBlock_eq_ok {head : Head} {b : Block} (h : headBlock head = .ok b) :
    b = flatHead head := by
  cases head with
  | branch c =>
    obtain ⟨is, his, hret⟩ := bind_eq_ok h
    cases hret
    rw [items_eq_ok his]
    rfl
  | loop l =>
    obtain ⟨is, his, hret⟩ := bind_eq_ok h
    cases hret
    rw [items_eq_ok his]
    rfl

mutual

theorem blocks_eq_ok : ∀ {i : Instruction} {bs : List Block}, blocks i = .ok bs → bs = flat i
  | .action a, bs, h => by
    rw [blocks] at h
    obtain ⟨is, his, hret⟩ := bind_eq_ok h
    cases hret
    rw [items_eq_ok his, flat]
  | .call c, bs, h => by
    rw [blocks] at h
    obtain ⟨b, hb, hret⟩ := bind_eq_ok h
    cases hret
    obtain ⟨is, his, hret⟩ := bind_eq_ok hb
    cases hret
    rw [items_eq_ok his, flat]
    cases c.kind <;> rfl
  | .bracket head setup body none, bs, h => by
    rw [blocks] at h
    obtain ⟨ss, hss, h⟩ := bind_eq_ok h
    obtain ⟨first, hfirst, h⟩ := bind_eq_ok h
    obtain ⟨cs, hcs, hret⟩ := bind_eq_ok h
    cases hret
    rw [blocksAll_eq_ok hss, headBlock_eq_ok hfirst, blocksAll_eq_ok hcs, flat]
    simp only [List.append_assoc, List.cons_append]
  | .bracket head setup body (some rest), bs, h => by
    rw [blocks] at h
    obtain ⟨ss, hss, h⟩ := bind_eq_ok h
    obtain ⟨first, hfirst, h⟩ := bind_eq_ok h
    obtain ⟨cs, hcs, h⟩ := bind_eq_ok h
    obtain ⟨es, hes, hret⟩ := bind_eq_ok h
    cases hret
    rw [blocksAll_eq_ok hss, headBlock_eq_ok hfirst, blocksAll_eq_ok hcs, blocksAll_eq_ok hes, flat]
    simp only [List.append_assoc, List.cons_append]

theorem blocksAll_eq_ok : ∀ {is : List Instruction} {bs : List Block},
    blocksAll is = .ok bs → bs = flatAll is
  | [], bs, h => by
    rw [blocksAll] at h
    cases h
    rw [flatAll]
  | i :: is, bs, h => by
    rw [blocksAll] at h
    obtain ⟨first, hfirst, h⟩ := bind_eq_ok h
    obtain ⟨rest, hrest, hret⟩ := bind_eq_ok h
    cases hret
    rw [blocks_eq_ok hfirst, blocksAll_eq_ok hrest, flatAll]

end

/-! ## Blocks with finite values -/

/-- Every number in the slot is finite. -/
def Content.Finite : Content → Prop
  | .value v => v.Finite
  | .param _ => True

def Block.items : Block → List Item
  | .named _ _ items => items
  | .step _ _ items _ _ _ => items
  | _ => []

/-- Every number in the block is finite. -/
def Block.Finite (b : Block) : Prop := ∀ i ∈ b.items, i.content.Finite

theorem finite_of_mem_place {next nextTag : Nat} {vs : List Value} (hvs : ∀ v ∈ vs, v.Finite)
    {i : Item} (hi : i ∈ place next nextTag vs) : i.content.Finite := by
  induction vs generalizing next nextTag with
  | nil => cases hi
  | cons v vs ih =>
    obtain ⟨hv, hvs⟩ := List.forall_mem_cons.mp hvs
    rw [place] at hi
    split at hi
    · rcases List.mem_cons.mp hi with rfl | hi
      · exact hv
      · exact ih hvs hi
    · rcases List.mem_cons.mp hi with rfl | hi
      · exact hv
      · exact ih hvs hi

theorem finite_flatHeader (header : Header) : (flatHeader header).Finite := by
  have htag : ∀ hidden, (hiddenTag hidden).content.Finite := by
    intro hidden x hx
    cases hx
  intro i hi
  cases header with
  | event kind name => cases hi
  | function name params hidden =>
    rcases List.mem_append.mp hi with hi | hi
    · obtain ⟨p, -, rfl⟩ := List.mem_map.mp hi
      trivial
    · rw [List.mem_singleton.mp hi]
      exact htag hidden
  | process name =>
    rw [List.mem_singleton.mp hi]
    exact htag false

theorem finite_flatHead {head : Head} (h : ∀ v ∈ head.args, v.Finite) : (flatHead head).Finite := by
  intro i hi
  cases head with
  | branch c => exact finite_of_mem_place h hi
  | loop l => exact finite_of_mem_place h hi

theorem finite_marker (opens loop : Bool) : (Block.marker opens loop).Finite := by
  intro i hi
  cases hi

theorem finite_otherwise : Block.otherwise.Finite := by
  intro i hi
  cases hi

mutual

theorem finite_flat : ∀ {i : Instruction}, (∀ v ∈ i.values, v.Finite) → ∀ b ∈ flat i, b.Finite
  | .action a, h => by
    rw [flat, List.forall_mem_singleton]
    rw [Instruction.values] at h
    exact fun i hi => finite_of_mem_place h hi
  | .call c, h => by
    rw [flat, List.forall_mem_singleton]
    rw [Instruction.values] at h
    exact fun i hi => finite_of_mem_place h hi
  | .bracket head setup body none, h => by
    rw [Instruction.values, List.forall_mem_append, List.forall_mem_append] at h
    obtain ⟨⟨hhead, hsetup⟩, hbody⟩ := h
    rw [flat]
    simp only [List.forall_mem_append, List.forall_mem_cons]
    exact ⟨finite_flatAll hsetup, finite_flatHead hhead, finite_marker _ _, finite_flatAll hbody,
      finite_marker _ _, by simp⟩
  | .bracket head setup body (some rest), h => by
    rw [Instruction.values, List.forall_mem_append, List.forall_mem_append,
      List.forall_mem_append] at h
    obtain ⟨⟨⟨hhead, hsetup⟩, hbody⟩, hrest⟩ := h
    rw [flat]
    simp only [List.forall_mem_append, List.forall_mem_cons]
    exact ⟨finite_flatAll hsetup, finite_flatHead hhead, finite_marker _ _, finite_flatAll hbody,
      finite_marker _ _, finite_otherwise, finite_marker _ _, finite_flatAll hrest,
      finite_marker _ _, by simp⟩

theorem finite_flatAll : ∀ {is : List Instruction}, (∀ v ∈ Instruction.valuesAll is, v.Finite) →
    ∀ b ∈ flatAll is, b.Finite
  | [], _ => by
    rw [flatAll]
    intro b hb
    cases hb
  | i :: is, h => by
    rw [Instruction.valuesAll, List.forall_mem_append] at h
    rw [flatAll, List.forall_mem_append]
    exact ⟨finite_flat h.1, finite_flatAll h.2⟩

end

/-! ## Trees of blocks -/

attribute [ext] Item Document

/-- No value has the record of a parameter. -/
theorem Content.toRecord_ne_param (v : Value) (name : String) :
    v.toRecord ≠ (Content.param name).toJson := by
  intro h
  simp only [toJson, Value.toRecord, Json.obj.injEq, List.cons.injEq, Prod.mk.injEq,
    Json.str.injEq, true_and, and_true] at h
  have hkind := Value.kindOfId?_recordParts v
  rw [h.2] at hkind
  cases hkind

theorem Content.toJson_inj {a b : Content} (ha : a.Finite) (hb : b.Finite)
    (h : a.toJson = b.toJson) : a = b := by
  cases a with
  | value v =>
    cases b with
    | value w => rw [Value.toRecord_inj ha hb h]
    | param name => exact absurd h (toRecord_ne_param v name)
  | param name =>
    cases b with
    | value w => exact absurd h.symm (toRecord_ne_param w name)
    | param name' =>
      simp only [toJson, Json.obj.injEq, List.cons.injEq, Prod.mk.injEq, Json.str.injEq, true_and,
        and_true] at h
      rw [h]

theorem Item.toJson_inj {a b : Item} (ha : a.content.Finite) (hb : b.content.Finite)
    (h : a.toJson = b.toJson) : a = b := by
  simp only [toJson, Json.obj.injEq, List.cons.injEq, Prod.mk.injEq, Json.int.injEq, true_and,
    and_true] at h
  exact Item.ext (Content.toJson_inj ha hb h.1) (Int.ofNat.inj h.2)

theorem itemsJson_inj {as bs : List Item} (ha : ∀ i ∈ as, i.content.Finite)
    (hb : ∀ i ∈ bs, i.content.Finite) (h : itemsJson as = itemsJson bs) : as = bs := by
  simp only [itemsJson, Json.obj.injEq, List.cons.injEq, Prod.mk.injEq, Json.arr.injEq, true_and,
    and_true] at h
  exact list_map_inj (fun i hi j hj => Item.toJson_inj (ha i hi) (hb j hj)) h

/-- The category with the given name. -/
def kindOfId? : String → Option BlockKind
  | "event" => some .playerEvent
  | "entity_event" => some .entityEvent
  | "func" => some .function
  | "process" => some .process
  | "player_action" => some .playerAction
  | "entity_action" => some .entityAction
  | "game_action" => some .gameAction
  | "set_var" => some .setVar
  | "control" => some .control
  | "if_player" => some .ifPlayer
  | "if_entity" => some .ifEntity
  | "if_game" => some .ifGame
  | "if_var" => some .ifVar
  | "else" => some .otherwise
  | "repeat" => some .loop
  | "call_func" => some .callFunction
  | "start_process" => some .startProcess
  | _ => none

theorem kindOfId?_id (kind : BlockKind) : kindOfId? kind.id = some kind := by
  cases kind <;> rfl

theorem id_inj {a b : BlockKind} (h : a.id = b.id) : a = b := by
  have hsome := kindOfId?_id a
  rw [h, kindOfId?_id b] at hsome
  exact (Option.some.inj hsome).symm

/-- The members of a step that may be left out. -/
def stepOptions (target : Option Selector) (subAction : Option String) (inverted : Bool) :
    List (String × Option Json) :=
  [("inverted", if inverted then some (.str "NOT") else none), ("subAction", subAction.map .str),
    ("target", target.map fun t => .str t.name)]

theorem Block.toJson_step (kind : BlockKind) (action : String) (items : List Item)
    (target : Option Selector) (subAction : Option String) (inverted : Bool) :
    (Block.step kind action items target subAction inverted).toJson =
      .obj ([("action", .str action), ("args", itemsJson items), ("block", .str kind.id),
        ("id", .str "block")] ++ present (stepOptions target subAction inverted)) := by
  cases inverted <;> cases subAction <;> cases target <;> rfl

theorem stepOptions_inj {target target' : Option Selector} {sub sub' : Option String}
    {inverted inverted' : Bool}
    (h : present (stepOptions target sub inverted) = present (stepOptions target' sub' inverted')) :
    target = target' ∧ sub = sub' ∧ inverted = inverted' := by
  have hall := present_inj (by rfl) (by simp [stepOptions]) h
  simp only [stepOptions, List.cons.injEq, Prod.mk.injEq, true_and, and_true] at hall
  obtain ⟨hinverted, hsub, htarget⟩ := hall
  refine ⟨option_map_inj (fun t _ t' _ heq => Selector.name_inj (Json.str.inj heq)) htarget,
    option_map_inj (fun s _ s' _ => Json.str.inj) hsub, ?_⟩
  exact bool_eq_of_ite (by simp) hinverted

/-- A block with finite values is known from its tree. -/
theorem Block.toJson_inj {a b : Block} (ha : a.Finite) (hb : b.Finite)
    (h : a.toJson = b.toJson) : a = b := by
  cases a <;> cases b
  case event.event kind name kind' name' =>
    simp only [toJson, Json.obj.injEq, List.cons.injEq, Prod.mk.injEq, Json.str.injEq, true_and,
      and_true] at h
    obtain ⟨hname, hkind⟩ := h
    have hblock := id_inj hkind
    rw [hname]
    cases kind <;> cases kind' <;> cases hblock <;> rfl
  case named.named kind name items kind' name' items' =>
    simp only [toJson, Json.obj.injEq, List.cons.injEq, Prod.mk.injEq, Json.str.injEq, true_and,
      and_true] at h
    obtain ⟨hitems, hkind, hname⟩ := h
    have hsame : items = items' := itemsJson_inj ha hb hitems
    rw [hsame, id_inj hkind, hname]
  case step.step kind action items target sub inverted kind' action' items' target' sub'
      inverted' =>
    simp only [toJson_step, Json.obj.injEq, List.cons_append, List.nil_append, List.cons.injEq,
      Prod.mk.injEq, Json.str.injEq, true_and] at h
    obtain ⟨haction, hitems, hkind, hoptions⟩ := h
    obtain ⟨htarget, hsub, hinverted⟩ := stepOptions_inj hoptions
    have hsame : items = items' := itemsJson_inj ha hb hitems
    rw [hsame, id_inj hkind, haction, htarget, hsub, hinverted]
  case otherwise.otherwise => rfl
  case marker.marker opens loop opens' loop' =>
    simp only [toJson, Json.obj.injEq, List.cons.injEq, Prod.mk.injEq, Json.str.injEq, true_and,
      and_true] at h
    rw [bool_eq_of_ite (by decide) h.1, bool_eq_of_ite (by decide) h.2]
  -- blocks of different forms differ in one of their first two keys
  all_goals simp [toJson] at h

theorem Document.toJson_inj {d d' : Document} (hd : ∀ b ∈ d.blocks, b.Finite)
    (hd' : ∀ b ∈ d'.blocks, b.Finite) (h : d.toJson = d'.toJson) : d = d' := by
  simp only [toJson, Json.obj.injEq, List.cons.injEq, Prod.mk.injEq, Json.arr.injEq, true_and,
    and_true] at h
  exact Document.ext
    (list_map_inj (fun b hb b' hb' => Block.toJson_inj (hd b hb) (hd' b' hb')) h)

end Plotline.Wire

namespace Plotline

/-- The blocks of the document of a template. -/
theorem Template.blocks_of_document {t : Template} {d : Wire.Document} (h : t.document = .ok d) :
    d.blocks = Wire.flatHeader t.header :: Wire.flatAll t.body := by
  rw [document] at h
  obtain ⟨header, hheader, h⟩ := bind_eq_ok h
  obtain ⟨body, hbody, hret⟩ := bind_eq_ok h
  cases hret
  rw [Wire.headerBlock_eq_ok hheader, Wire.blocksAll_eq_ok hbody]

end Plotline
