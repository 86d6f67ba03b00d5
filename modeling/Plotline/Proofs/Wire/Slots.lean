import Plotline.Proofs.Wire.Blocks
import Plotline.Proofs.Wire.Overflow

/-!
# Slots of a chest

The values of a block lie in the slots 0 to 26 of a chest. Plain values are counted up from the
first slot and tags are counted down from the last one. Only the number of all values is checked,
and `nodup_place` shows why this is enough: what is left between the two counts always holds the
values that are still to come, so the counts pass each other only when none is left.

`slots_of_document` says when a template has a document, and where the values of all its blocks lie
then. It looks at the document that goes over the wire: at what the entries of a block say about
what they hold and where (`Json.chest?`). A header has slots of its own: parameters are counted up
too, and the tag that says whether it is hidden has a fixed slot behind them.
-/

namespace Plotline

open Instruction

/-! ## Chests in a document -/

/-- The blocks that a document lists. -/
def Json.blocks? (j : Json) : Option (List Json) :=
  match j.get? "blocks" with
  | some (.arr blocks) => some blocks
  | _ => none

/-- What an entry of a chest holds, and its slot. -/
def Json.entry? (j : Json) : Option (Json × Nat) :=
  match j.get? "item", j.get? "slot" with
  | some item, some (.int (.ofNat slot)) => some (item, slot)
  | _, _ => none

/-- The entries that a block lists as its arguments. -/
def Json.chest? (block : Json) : Option (List (Json × Nat)) :=
  match (block.get? "args").bind (Json.get? "items") with
  | some (.arr entries) => entries.mapM Json.entry?
  | _ => none

/-! ## Values of the blocks of a template -/

mutual

/-- The values of the blocks of an instruction, block by block: those of actions, of heads and of
calls, in the order in which the blocks are placed. -/
def Instruction.chests : Instruction → List (List Value)
  | .action a => [a.args]
  | .call c => [c.args]
  | .bracket head setup body none => chestsAll setup ++ head.args :: chestsAll body
  | .bracket head setup body (some rest) =>
    chestsAll setup ++ head.args :: (chestsAll body ++ chestsAll rest)

def Instruction.chestsAll : List Instruction → List (List Value)
  | [] => []
  | i :: is => i.chests ++ chestsAll is

end

mutual

theorem Instruction.holds_iff : ∀ i : Instruction,
    i.Holds ↔ ∀ vs ∈ i.chests, vs.length ≤ chestSlots
  | .action a => by rw [Holds, chests, List.forall_mem_singleton]
  | .call c => by rw [Holds, chests, List.forall_mem_singleton]
  | .bracket head setup body none => by
    rw [Holds, chests, List.forall_mem_append, List.forall_mem_cons, holdsAll_iff setup,
      holdsAll_iff body]
  | .bracket head setup body (some rest) => by
    rw [Holds, chests, List.forall_mem_append, List.forall_mem_cons, List.forall_mem_append,
      holdsAll_iff setup, holdsAll_iff body, holdsAll_iff rest]

theorem Instruction.holdsAll_iff : ∀ is : List Instruction,
    HoldsAll is ↔ ∀ vs ∈ chestsAll is, vs.length ≤ chestSlots
  | [] => by simp [HoldsAll, chestsAll]
  | i :: is => by
    rw [HoldsAll, chestsAll, List.forall_mem_append, holds_iff i, holdsAll_iff is]

end

namespace Wire

/-- The items of a block that has a chest. -/
def Block.chest? : Block → Option (List Item)
  | .named _ _ items => some items
  | .step _ _ items _ _ _ => some items
  | .event .. | .otherwise | .marker .. => none

theorem chest?_flatHead (head : Head) : (flatHead head).chest? = some (chest head.args) := by
  cases head <;> rfl

mutual

/-- Markers apart, every block of an instruction has one of its lists of values. -/
theorem filterMap_flat : ∀ i : Instruction,
    (flat i).filterMap Block.chest? = i.chests.map chest
  | .action a => rfl
  | .call c => rfl
  | .bracket head setup body none => by
    rw [flat, chests, List.filterMap_append, filterMap_flatAll setup,
      List.filterMap_cons_some (chest?_flatHead head), List.filterMap_cons_none rfl,
      List.filterMap_append, filterMap_flatAll body, List.filterMap_cons_none rfl,
      List.filterMap_nil, List.append_nil, List.map_append, List.map_cons]
  | .bracket head setup body (some rest) => by
    rw [flat, chests, List.filterMap_append, filterMap_flatAll setup,
      List.filterMap_cons_some (chest?_flatHead head), List.filterMap_cons_none rfl,
      List.filterMap_append, filterMap_flatAll body, List.filterMap_cons_none rfl,
      List.filterMap_cons_none rfl, List.filterMap_cons_none rfl, List.filterMap_append,
      filterMap_flatAll rest, List.filterMap_cons_none rfl, List.filterMap_nil, List.append_nil,
      List.map_append, List.map_cons, List.map_append]

theorem filterMap_flatAll : ∀ is : List Instruction,
    (flatAll is).filterMap Block.chest? = (chestsAll is).map chest
  | [] => rfl
  | i :: is => by
    rw [flatAll, chestsAll, List.filterMap_append, filterMap_flat i, filterMap_flatAll is,
      List.map_append]

end

/-- An item as an entry of a chest. -/
def Item.entry (i : Item) : Json × Nat := (i.content.toJson, i.slot)

theorem Item.entry?_toJson (i : Item) : i.toJson.entry? = some i.entry := by
  simp [Item.toJson, Json.entry?, Json.get?, Json.member?, Item.entry]

theorem mapM_entry? (items : List Item) :
    items.mapM (Json.entry? ∘ Item.toJson) = some (items.map Item.entry) := by
  rw [show Json.entry? ∘ Item.toJson = fun i => some i.entry from funext Item.entry?_toJson]
  exact List.mapM_pure

/-- The entries of a block are its items. -/
theorem Block.chest?_toJson (b : Block) :
    b.toJson.chest? = b.chest?.map fun items => items.map Item.entry := by
  cases b <;>
    simp [Block.toJson, Json.chest?, Json.get?, Json.member?, Block.chest?, itemsJson, mapM_entry?]

theorem Document.blocks?_toJson (d : Document) :
    d.toJson.blocks? = some (d.blocks.map Block.toJson) := by
  simp [Document.toJson, Json.blocks?, Json.get?, Json.member?]

/-! ## Where values are placed -/

theorem contents_place (next nextTag : Nat) (vs : List Value) :
    (place next nextTag vs).map Item.content = vs.map .value := by
  induction vs generalizing next nextTag with
  | nil => rfl
  | cons v vs ih =>
    rw [place]
    split
    · exact congrArg (_ :: ·) (ih next (nextTag - 1))
    · exact congrArg (_ :: ·) (ih (next + 1) nextTag)

/-- The values with their slots. -/
def slotted (next nextTag : Nat) (vs : List Value) : List (Value × Nat) :=
  vs.zip ((place next nextTag vs).map Item.slot)

theorem slotted_cons (next nextTag : Nat) (v : Value) (vs : List Value) :
    slotted next nextTag (v :: vs) =
      if v.isTag then (v, nextTag) :: slotted next (nextTag - 1) vs
      else (v, next) :: slotted (next + 1) nextTag vs := by
  unfold slotted
  rw [place]
  split <;> rfl

/-- The plain values are counted up. -/
theorem slots_of_plain (next nextTag : Nat) (vs : List Value) :
    ((slotted next nextTag vs).filter (!·.1.isTag)).map Prod.snd =
      List.range' next (vs.countP (!·.isTag)) := by
  induction vs generalizing next nextTag with
  | nil => rfl
  | cons v vs ih =>
    rw [slotted_cons]
    cases htag : v.isTag with
    | true => simp [htag, ih]
    | false => simp [htag, ih, List.range'_succ]

/-- The tags are counted down. -/
theorem slots_of_tags (next nextTag : Nat) (vs : List Value) :
    ((slotted next nextTag vs).filter (·.1.isTag)).map Prod.snd =
      (List.range (vs.countP (·.isTag))).map (nextTag - ·) := by
  induction vs generalizing next nextTag with
  | nil => rfl
  | cons v vs ih =>
    rw [slotted_cons]
    cases htag : v.isTag with
    | true =>
      simp only [htag, if_true, List.filter_cons_of_pos, List.map_cons, ih, List.countP_cons_of_pos,
        List.range_succ_eq_map, List.map_map, Nat.sub_zero, List.cons.injEq, true_and]
      refine List.map_congr_left fun k _ => ?_
      rw [Function.comp_apply]
      omega
    | false => simp [htag, ih]

section

variable {next nextTag : Nat} {vs : List Value}

/-- As long as there is room for all values, none is placed outside of it. -/
theorem slot_mem_of_place (h : next + vs.length ≤ nextTag + 1) {i : Item}
    (hi : i ∈ place next nextTag vs) : next ≤ i.slot ∧ i.slot ≤ nextTag := by
  induction vs generalizing next nextTag with
  | nil => cases hi
  | cons v vs ih =>
    rw [List.length_cons] at h
    rw [place] at hi
    split at hi
    · rcases List.mem_cons.mp hi with rfl | hi
      · exact ⟨by dsimp only; omega, Nat.le_refl _⟩
      · have := ih (by omega) hi
        omega
    · rcases List.mem_cons.mp hi with rfl | hi
      · exact ⟨Nat.le_refl _, by dsimp only; omega⟩
      · have := ih (by omega) hi
        omega

/-- As long as there is room for all values, no slot is used twice. -/
theorem nodup_place (h : next + vs.length ≤ nextTag + 1) :
    ((place next nextTag vs).map Item.slot).Nodup := by
  induction vs generalizing next nextTag with
  | nil => exact List.nodup_nil
  | cons v vs ih =>
    rw [List.length_cons] at h
    rw [place]
    split
    · rw [List.map_cons, List.nodup_cons]
      refine ⟨?_, ih (by omega)⟩
      rw [List.mem_map]
      rintro ⟨i, hi, hslot⟩
      change i.slot = nextTag at hslot
      have hroom := slot_mem_of_place (by omega) hi
      -- in slot 0 the count stays where it is, but then this was the last value
      cases vs with
      | nil => cases hi
      | cons w vs =>
        rw [List.length_cons] at h
        omega
    · rw [List.map_cons, List.nodup_cons]
      refine ⟨?_, ih (by omega)⟩
      rw [List.mem_map]
      rintro ⟨i, hi, hslot⟩
      change i.slot = next at hslot
      have hroom := slot_mem_of_place (by omega) hi
      omega

end

/-! ## Slots of a block -/

/-- No slot is used twice, and all are slots of a chest. -/
def Apart (entries : List (Json × Nat)) : Prop :=
  (entries.map Prod.snd).Nodup ∧ ∀ e ∈ entries, e.2 ≤ 26

/-- The entries are the values in their order, plain values in the slots 0, 1, 2, … and tags in the
slots 26, 25, 24, … -/
structure InSlots (vs : List Value) (entries : List (Json × Nat)) : Prop where
  contents : entries.map Prod.fst = vs.map Value.toRecord
  plain : ((vs.zip (entries.map Prod.snd)).filter (!·.1.isTag)).map Prod.snd =
    List.range (vs.countP (!·.isTag))
  tags : ((vs.zip (entries.map Prod.snd)).filter (·.1.isTag)).map Prod.snd =
    (List.range (vs.countP (·.isTag))).map (26 - ·)

/-- The chest of a header: none for an event, else the parameters in the slots 0, 1, 2, … and the
tag in slot 25. -/
def HeaderInSlots : Header → Option (List (Json × Nat)) → Prop
  | .event .., chest => chest = none
  | .function _ params hidden, chest => ∃ entries, chest = some entries ∧
      entries.map Prod.fst =
        params.map (fun p => (Content.param p).toJson) ++ [(hiddenTag hidden).content.toJson] ∧
      entries.map Prod.snd = List.range params.length ++ [25]
  | .process _, chest => chest = some [((hiddenTag false).content.toJson, 25)]

theorem map_snd_entry (items : List Item) :
    (items.map Item.entry).map Prod.snd = items.map Item.slot := by
  rw [List.map_map]
  rfl

theorem map_fst_entry (items : List Item) :
    (items.map Item.entry).map Prod.fst = (items.map Item.content).map Content.toJson := by
  rw [List.map_map, List.map_map]
  rfl

theorem apart_chest {vs : List Value} (h : vs.length ≤ chestSlots) :
    Apart ((chest vs).map Item.entry) := by
  have hroom : 0 + vs.length ≤ lastSlot + 1 := by
    rw [Nat.zero_add]
    exact h
  refine ⟨?_, ?_⟩
  · rw [map_snd_entry]
    exact nodup_place hroom
  · rw [List.forall_mem_map]
    exact fun i hi => (slot_mem_of_place hroom hi).2

theorem inSlots_chest (vs : List Value) : InSlots vs ((chest vs).map Item.entry) where
  contents := by
    rw [map_fst_entry, chest, contents_place, List.map_map]
    rfl
  plain := by
    rw [map_snd_entry, List.range_eq_range']
    exact slots_of_plain 0 lastSlot vs
  tags := by
    rw [map_snd_entry]
    exact slots_of_tags 0 lastSlot vs

theorem headerInSlots_flatHeader (header : Header) :
    HeaderInSlots header (flatHeader header).toJson.chest? := by
  rw [Block.chest?_toJson]
  cases header with
  | event kind name => rfl
  | process name => rfl
  | function name params hidden =>
    let items : List Item := params.zipIdx.map fun p => ⟨.param p.1, p.2⟩
    refine ⟨(items ++ [hiddenTag hidden]).map Item.entry, rfl, ?_, ?_⟩
    · calc ((items ++ [hiddenTag hidden]).map Item.entry).map Prod.fst
        _ = (params.zipIdx.map Prod.fst).map (fun p => (Content.param p).toJson) ++
            [(hiddenTag hidden).content.toJson] := by
          rw [map_fst_entry, List.map_map, List.map_append, List.map_map, List.map_map]
          rfl
        _ = params.map (fun p => (Content.param p).toJson) ++
            [(hiddenTag hidden).content.toJson] := by rw [List.zipIdx_map_fst]
    · calc ((items ++ [hiddenTag hidden]).map Item.entry).map Prod.snd
        _ = params.zipIdx.map Prod.snd ++ [25] := by
          rw [map_snd_entry, List.map_append, List.map_map]
          rfl
        _ = List.range params.length ++ [25] := by rw [List.zipIdx_map_snd, List.range_eq_range']

theorem HeaderInSlots.apart {header : Header} {chest : Option (List (Json × Nat))}
    (h : HeaderInSlots header chest) (hparams : header.params.length ≤ 25) :
    ∀ entries ∈ chest, Apart entries := by
  cases header with
  | event kind name =>
    obtain rfl := h
    simp
  | function name params hidden =>
    obtain ⟨entries, rfl, -, hslots⟩ := h
    have hlow : ∀ slot ∈ List.range params.length, slot < 25 := fun slot hslot =>
      Nat.lt_of_lt_of_le (List.mem_range.mp hslot) hparams
    intro entries' hentries
    obtain rfl := Option.mem_some.mp hentries
    constructor
    · rw [hslots, List.nodup_append]
      refine ⟨List.nodup_range, List.nodup_singleton 25, fun slot hslot tagSlot htag => ?_⟩
      rw [List.mem_singleton.mp htag]
      exact Nat.ne_of_lt (hlow slot hslot)
    · intro e he
      have hmem : e.2 ∈ List.range params.length ++ [25] := hslots ▸ List.mem_map_of_mem he
      rcases List.mem_append.mp hmem with hslot | hslot
      · have := hlow e.2 hslot
        omega
      · have := List.mem_singleton.mp hslot
        omega
  | process name =>
    obtain rfl := h
    intro entries hentries
    obtain rfl := Option.mem_some.mp hentries
    exact ⟨List.nodup_singleton _, by simp⟩

end Wire

open Wire

/-- **Slots.** A template has a document if and only if its header has at most 25 parameters and
each of its actions, heads and calls has at most 27 values. Then no block of the document uses a
slot twice or one that a chest does not have, and the values of all blocks and the parameters lie in
their slots in order. -/
theorem slots_of_document (t : Template) :
    (Succeeds t.document ↔
        t.header.params.length ≤ 25 ∧ ∀ vs ∈ chestsAll t.body, vs.length ≤ 27) ∧
      ∀ d, t.document = .ok d → ∃ first rest, d.toJson.blocks? = some (first :: rest) ∧
        (∀ block ∈ first :: rest, ∀ entries ∈ block.chest?, Apart entries) ∧
        HeaderInSlots t.header first.chest? ∧
        List.Forall₂ InSlots (chestsAll t.body) (rest.filterMap Json.chest?) := by
  have hholds : Succeeds t.document ↔
      t.header.params.length ≤ 25 ∧ ∀ vs ∈ chestsAll t.body, vs.length ≤ 27 := by
    rw [Template.succeeds_document, Template.Holds, holdsAll_iff]
    exact Iff.rfl
  refine ⟨hholds, fun d hd => ?_⟩
  obtain ⟨hparams, hbody⟩ := hholds.mp ⟨d, hd⟩
  have hheader := headerInSlots_flatHeader t.header
  have hchests : ((flatAll t.body).map Block.toJson).filterMap Json.chest? =
      (chestsAll t.body).map fun vs => (chest vs).map Item.entry := by
    rw [List.filterMap_map, show Json.chest? ∘ Block.toJson = _ from funext Block.chest?_toJson,
      ← List.map_filterMap, filterMap_flatAll, List.map_map]
    rfl
  refine ⟨_, _, by rw [Document.blocks?_toJson, Template.blocks_of_document hd]; rfl, ?_, hheader,
    ?_⟩
  · rw [List.forall_mem_cons]
    refine ⟨hheader.apart hparams, fun block hblock entries hentries => ?_⟩
    have hmem := List.mem_filterMap.mpr ⟨block, hblock, hentries⟩
    rw [hchests] at hmem
    obtain ⟨vs, hvs, rfl⟩ := List.mem_map.mp hmem
    exact apart_chest (hbody vs hvs)
  · rw [hchests, List.forall₂_map_right_iff, List.forall₂_same]
    exact fun vs _ => inSlots_chest vs

namespace Sample

def messageTag (name option : String) : Value :=
  .tag ⟨"SendMessage", name, option, BlockKind.playerAction.id⟩

/-- As many values as a chest has slots, a tag before and a tag behind the plain ones. -/
def fullChest : List Value :=
  messageTag "Alignment Mode" "Regular" :: List.replicate 25 (.text "m") ++
    [messageTag "Text Value Merging" "Add spaces"]

/-- A header and an action without a free slot. -/
def packed : Template :=
  ⟨.function "f" (List.replicate 25 "p") true,
    [.action ⟨.playerAction, "SendMessage", fullChest, none⟩]⟩

end Sample

/-- With no slot left to spare there is still one for every value. -/
theorem slots_of_packed : ∃ d, Sample.packed.document = .ok d ∧
    d.toJson.blocks?.map (fun blocks => blocks.map fun b => b.chest?.map (·.map Prod.snd)) =
      some [some (List.range 25 ++ [25]), some (26 :: List.range 25 ++ [25])] ∧
    ∃ first rest, d.toJson.blocks? = some (first :: rest) ∧
      (∀ block ∈ first :: rest, ∀ entries ∈ block.chest?, Apart entries) ∧
      HeaderInSlots Sample.packed.header first.chest? ∧
      List.Forall₂ InSlots [Sample.fullChest] (rest.filterMap Json.chest?) := by
  obtain ⟨hdocument, hslots⟩ := slots_of_document Sample.packed
  obtain ⟨d, hd⟩ := hdocument.mpr ⟨by decide, by decide⟩
  refine ⟨d, hd, ?_, hslots d hd⟩
  have hview : Sample.packed.document.map (fun d => d.toJson.blocks?.map fun blocks =>
      blocks.map fun b => b.chest?.map (·.map Prod.snd)) =
      .ok (some [some (List.range 25 ++ [25]), some (26 :: List.range 25 ++ [25])]) := by
    decide +kernel
  rw [hd] at hview
  exact Except.ok.inj hview

end Plotline
