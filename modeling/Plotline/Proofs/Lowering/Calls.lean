import Plotline.Proofs.Lowering.Conformance

/-!
# What lowered code calls

The calls of lowered code are those of the statements that call, and every one agrees with a
definition of the script (`Emits.calls`). Hence `Script.calls_of_lower`: a lowered script calls no
function that it does not define.

In a script that uses neither `~` nor `.` in the names of functions and processes, no such name can
be taken for the name of a continuation or of an event, and the program is fresh
(`Script.PlainNames.fresh`).
-/

namespace Plotline

open Instruction

namespace Script

/-- A lowered script calls functions of the script only. -/
theorem calls_of_lower {s : Script} {P : Program} (h : s.lower = .ok P) {unit : Template}
    (hunit : unit ∈ P.units) {c : Call} (hc : c ∈ callsAll unit.body)
    (hkind : c.kind = .function) : c.name ∈ s.items.filterMap Item.functionName? := by
  obtain ⟨d, hd, hunits⟩ := forall₂_of_lower h
  obtain ⟨item, -, hlower⟩ := exists_of_mem_right hunits hunit
  have hagrees := (Item.emits hlower).calls c hc
  rw [Call.Agrees, hkind] at hagrees
  exact (isSome_arity?_iff hd).mp (Option.isSome_of_eq_some hagrees)

/-! ## Plain names -/

/-- The names of the functions and the processes. -/
def definedNames (s : Script) : List String := s.items.filterMap fun item => item.key.getRight?

/-- No function and no process has a tilde or a dot in its name. -/
def PlainNames (s : Script) : Prop :=
  ∀ name ∈ s.definedNames, '~' ∉ name.toList ∧ '.' ∉ name.toList

instance (s : Script) : Decidable s.PlainNames :=
  inferInstanceAs (Decidable (∀ name ∈ s.definedNames, _))

theorem PlainNames.of_key {s : Script} (h : s.PlainNames) {item : Item} (hitem : item ∈ s.items)
    {name : String} (hkey : item.key = .inr name) : '~' ∉ name.toList ∧ '.' ∉ name.toList :=
  h name (List.mem_filterMap.mpr ⟨item, hitem, by rw [hkey]; rfl⟩)

theorem PlainNames.of_function {s : Script} (h : s.PlainNames) {name : String}
    (hname : name ∈ s.items.filterMap Item.functionName?) : '~' ∉ name.toList := by
  obtain ⟨item, hitem, hfunction⟩ := List.mem_filterMap.mp hname
  exact (h.of_key hitem (Item.key_of_functionName? hfunction)).1

theorem dot_mem_unitName_event (kind : EventKind) (name : String) :
    '.' ∈ (Header.event kind name).unitName.toList := by
  cases kind <;> simp [Header.unitName]

theorem unitName_event_inj {kind kind' : EventKind} {name name' : String}
    (h : (Header.event kind name).unitName = (Header.event kind' name').unitName) :
    kind = kind' ∧ name = name' := by
  have hlist := congrArg String.toList h
  cases kind with
  | player =>
    cases kind' with
    | player => exact ⟨rfl, String.toList_inj.mp (by simpa [Header.unitName] using hlist)⟩
    | entity => simp [Header.unitName] at hlist
  | entity =>
    cases kind' with
    | player => simp [Header.unitName] at hlist
    | entity => exact ⟨rfl, String.toList_inj.mp (by simpa [Header.unitName] using hlist)⟩

/-- A plain name is no name of an event. -/
theorem ne_unitName_event {name : String} (h : '.' ∉ name.toList) (kind : EventKind)
    (event : String) : name ≠ (Header.event kind event).unitName := by
  rintro rfl
  exact h (dot_mem_unitName_event kind event)

theorem Item.unitName_header (item : Item) : item.header.unitName =
    item.key.elim (fun event => (Header.event event.1 event.2).unitName) id := by
  cases item <;> rfl

/-- With plain names, the name of a unit tells the key of its item. -/
theorem PlainNames.key_eq {s : Script} (h : s.PlainNames) {item item' : Item}
    (hitem : item ∈ s.items) (hitem' : item' ∈ s.items)
    (heq : item.header.unitName = item'.header.unitName) : item.key = item'.key := by
  rw [Item.unitName_header, Item.unitName_header] at heq
  cases hkey : item.key with
  | inl event =>
    cases hkey' : item'.key with
    | inl event' =>
      rw [hkey, hkey'] at heq
      obtain ⟨hkind, hname⟩ := unitName_event_inj heq
      rw [Prod.ext hkind hname]
    | inr name' =>
      rw [hkey, hkey'] at heq
      exact absurd heq.symm (ne_unitName_event (h.of_key hitem' hkey').2 _ _)
  | inr name =>
    cases hkey' : item'.key with
    | inl event' =>
      rw [hkey, hkey'] at heq
      exact absurd heq (ne_unitName_event (h.of_key hitem hkey).2 _ _)
    | inr name' =>
      rw [hkey, hkey'] at heq
      exact congrArg Sum.inr heq

theorem PlainNames.unitNames_nodup {s : Script} (h : s.PlainNames) {P : Program}
    (hlower : s.lower = .ok P) : (P.units.map Template.name).Nodup := by
  obtain ⟨d, hd, -⟩ := forall₂_of_lower hlower
  have hnames : P.units.map Template.name = s.items.map fun item => item.header.unitName := by
    have hheaders := congrArg (List.map Header.unitName) (headers_of_lower hlower)
    rwa [List.map_map, List.map_map] at hheaders
  rw [hnames]
  refine List.pairwise_map.mpr ((List.pairwise_map.mp (keys_nodup hd)).imp_of_mem ?_)
  intro item item' hitem hitem' hne heq
  exact hne (h.key_eq hitem hitem' heq)

/-- A script with plain names gives a program in which the names of continuations are free. -/
theorem PlainNames.fresh {s : Script} (h : s.PlainNames) {P : Program}
    (hlower : s.lower = .ok P) : P.Fresh where
  visible := by
    intro unit hunit
    have hheader : unit.header ∈ s.items.map Item.header := by
      rw [← headers_of_lower hlower]
      exact List.mem_map_of_mem hunit
    obtain ⟨item, -, heq⟩ := List.mem_map.mp hheader
    rw [← heq]
    cases item <;> rfl
  distinct := h.unitNames_nodup hlower
  uncalled := by
    intro unit hunit c hc hkind v _ n _
    have hplain := h.of_function (calls_of_lower hlower hunit hc hkind)
    exact ne_continuation hplain ⟨0, v.name⟩ n

end Script

end Plotline
