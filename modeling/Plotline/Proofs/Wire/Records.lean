import Plotline.Proofs.General
import Plotline.Proofs.Numeral.Plain

/-!
# Records tell values apart

A value whose numbers are finite is known from its wire record (`Value.toRecord_inj`). The kind of
the record says which alternative the value is; each field is then known from its member. Settings
that are left open have no member, so those of a particle are compared through the list of all
settings, open ones included (`present_inj`).
-/

namespace Plotline

open Numeral

/-! ## Numbers and names -/

theorem shortNumber_inj {x y : Single} (hx : x.isFinite = true) (hy : y.isFinite = true)
    (h : shortNumber x = shortNumber y) : x = y := by
  rw [shortNumber, shortNumber, if_pos hx, if_pos hy, Json.float.injEq] at h
  exact Binary.respelled_inj hx hy h

theorem Scope.ofWireName?_wireName (s : Scope) : ofWireName? s.wireName = some s := by
  cases s <;> rfl

theorem Scope.wireName_inj {a b : Scope} (h : a.wireName = b.wireName) : a = b := by
  have hsome := ofWireName?_wireName a
  rw [h, ofWireName?_wireName b] at hsome
  exact (Option.some.inj hsome).symm

theorem Selector.ofName?_name (s : Selector) : ofName? s.name = some s := by
  cases s <;> rfl

theorem Selector.name_inj {a b : Selector} (h : a.name = b.name) : a = b := by
  have hsome := ofName?_name a
  rw [h, ofName?_name b] at hsome
  exact (Option.some.inj hsome).symm

/-! ## Members that may be left out -/

/-- The members of a list of settings that are not left open. -/
def present (settings : List (String × Option Json)) : List (String × Json) :=
  settings.filterMap fun s => s.2.map fun j => (s.1, j)

theorem mem_keys_of_mem_present {settings : List (String × Option Json)} {k : String} {j : Json}
    (h : (k, j) ∈ present settings) : k ∈ settings.map Prod.fst := by
  obtain ⟨⟨k', o⟩, hmem, hsome⟩ := List.mem_filterMap.mp h
  obtain ⟨j', -, hpair⟩ := Option.map_eq_some_iff.mp hsome
  cases hpair
  exact List.mem_map.mpr ⟨_, hmem, rfl⟩

/-- Settings with different keys are known from those that are not left open. -/
theorem present_inj {as bs : List (String × Option Json)}
    (hkeys : as.map Prod.fst = bs.map Prod.fst) (hnodup : (as.map Prod.fst).Nodup)
    (h : present as = present bs) : as = bs := by
  induction as generalizing bs with
  | nil =>
    rw [List.map_nil] at hkeys
    exact (List.map_eq_nil_iff.mp hkeys.symm).symm
  | cons a as ih =>
    cases bs with
    | nil => cases hkeys
    | cons b bs =>
      obtain ⟨k, o⟩ := a
      obtain ⟨k', o'⟩ := b
      obtain ⟨hsame, hrest⟩ : k = k' ∧ as.map Prod.fst = bs.map Prod.fst := List.cons.inj hkeys
      subst hsame
      obtain ⟨hk, hnodup'⟩ : k ∉ as.map Prod.fst ∧ (as.map Prod.fst).Nodup :=
        List.nodup_cons.mp hnodup
      -- the key is in neither of the two rests
      have hnot : ∀ {j : Json}, (k, j) ∉ present as := fun hmem => hk (mem_keys_of_mem_present hmem)
      have hnot' : ∀ {j : Json}, (k, j) ∉ present bs := by
        intro j hmem
        have hmem' := mem_keys_of_mem_present hmem
        rw [← hrest] at hmem'
        exact hk hmem'
      cases o with
      | none =>
        cases o' with
        | none => rw [ih hrest hnodup' h]
        | some j' =>
          have hhead : (k, j') ∈ present ((k, none) :: as) := h ▸ List.mem_cons_self
          exact absurd hhead hnot
      | some j =>
        cases o' with
        | none =>
          have hhead : (k, j) ∈ present ((k, none) :: bs) := h ▸ List.mem_cons_self
          exact absurd hhead hnot'
        | some j' =>
          obtain ⟨hpair, htail⟩ := List.cons.inj h
          cases hpair
          rw [ih hrest hnodup' htail]

/-! ## Values -/

attribute [ext] Location Vector3 Sound Potion Variable GameValue Particle Tag

/-- The settings of a particle, those that are left open included. -/
def Particle.settings (p : Particle) : List (String × Option Json) :=
  let int (n : Int32) : Json := .int n.toInt
  [("colorVariation", p.colorVariation.map int), ("material", p.material.map Json.str),
    ("motionVariation", p.motionVariation.map int), ("rgb", p.color.map int),
    ("roll", p.roll.map shortNumber), ("size", p.size.map shortNumber),
    ("sizeVariation", p.sizeVariation.map int), ("x", p.motionX.map shortNumber),
    ("y", p.motionY.map shortNumber), ("z", p.motionZ.map shortNumber)]

theorem Particle.recordSettings_eq (p : Particle) : p.recordSettings = present p.settings := rfl

def Particle.settingKeys : List String :=
  ["colorVariation", "material", "motionVariation", "rgb", "roll", "size", "sizeVariation", "x",
    "y", "z"]

theorem Particle.settingKeys_nodup : settingKeys.Nodup := by decide

theorem Particle.keys_settings (p : Particle) : p.settings.map Prod.fst = settingKeys := rfl

namespace Value

/-- The numbers in a value. -/
def singles : Value → List Single
  | .number x => [x]
  | .location l => [l.x, l.y, l.z, l.pitch, l.yaw]
  | .vector v => [v.x, v.y, v.z]
  | .sound s => [s.pitch, s.volume]
  | .particle p =>
    [p.spreadX, p.spreadY] ++
      [p.motionX, p.motionY, p.motionZ, p.size, p.roll].flatMap Option.toList
  | _ => []

/-- Every number in the value is finite. -/
def Finite (v : Value) : Prop := ∀ x ∈ v.singles, x.isFinite = true

instance (v : Value) : Decidable v.Finite := inferInstanceAs (Decidable (∀ x ∈ v.singles, _))

/-- The alternative that a kind of records is for. -/
def kindOfId? : String → Option ValueKind
  | "txt" => some .text
  | "num" => some .number
  | "loc" => some .location
  | "vec" => some .vector
  | "snd" => some .sound
  | "pot" => some .potion
  | "var" => some .variable
  | "g_val" => some .gameValue
  | "part" => some .particle
  | "bl_tag" => some .tag
  | "item" => some .item
  | _ => none

theorem kindOfId?_recordParts (v : Value) : kindOfId? v.recordParts.1 = some v.kind := by
  cases v <;> rfl

end Value

theorem Particle.recordData_inj {p q : Particle} (hp : (Value.particle p).Finite)
    (hq : (Value.particle q).Finite) (h : p.recordData = q.recordData) : p = q := by
  have hnumber : ∀ {x y : Single}, x ∈ (Value.particle p).singles →
      y ∈ (Value.particle q).singles → shortNumber x = shortNumber y → x = y :=
    fun hx hy => shortNumber_inj (hp _ hx) (hq _ hy)
  have hsetting : ∀ {a b : Option Single},
      a ∈ [p.motionX, p.motionY, p.motionZ, p.size, p.roll] →
      b ∈ [q.motionX, q.motionY, q.motionZ, q.size, q.roll] →
      a.map shortNumber = b.map shortNumber → a = b := by
    intro a b ha hb
    refine option_map_inj fun x hx y hy => hnumber ?_ ?_
    · exact List.mem_append_right _ (List.mem_flatMap.mpr ⟨a, ha, Option.mem_toList.mpr hx⟩)
    · exact List.mem_append_right _ (List.mem_flatMap.mpr ⟨b, hb, Option.mem_toList.mpr hy⟩)
  have hint : ∀ {a b : Option Int32},
      (a.map fun n => Json.int n.toInt) = (b.map fun n => Json.int n.toInt) → a = b :=
    option_map_inj fun x _ y _ heq => Int32.toInt_inj.mp (Json.int.inj heq)
  simp only [recordData, recordSettings_eq, List.cons.injEq, Prod.mk.injEq, Json.obj.injEq,
    Json.str.injEq, Json.int.injEq, true_and, and_true] at h
  obtain ⟨⟨hamount, hspreadX, hspreadY⟩, hsettings, hname⟩ := h
  have hall := present_inj ((keys_settings p).trans (keys_settings q).symm)
    ((keys_settings p).symm ▸ settingKeys_nodup) hsettings
  simp only [settings, List.cons.injEq, Prod.mk.injEq, true_and, and_true] at hall
  obtain ⟨hcolorVariation, hmaterial, hmotionVariation, hcolor, hroll, hsize, hsizeVariation,
    hmotionX, hmotionY, hmotionZ⟩ := hall
  ext1
  · exact hname
  · exact Int32.toInt_inj.mp hamount
  · exact hnumber (by simp [Value.singles]) (by simp [Value.singles]) hspreadX
  · exact hnumber (by simp [Value.singles]) (by simp [Value.singles]) hspreadY
  · exact hsetting (by simp) (by simp) hmotionX
  · exact hsetting (by simp) (by simp) hmotionY
  · exact hsetting (by simp) (by simp) hmotionZ
  · exact hsetting (by simp) (by simp) hsize
  · exact hsetting (by simp) (by simp) hroll
  · exact hint hsizeVariation
  · exact hint hcolorVariation
  · exact hint hmotionVariation
  · exact option_map_inj (fun x _ y _ => Json.str.inj) hmaterial
  · exact hint hcolor

namespace Value

variable {v w : Value}

theorem recordParts_inj (hv : v.Finite) (hw : w.Finite) (h : v.recordParts = w.recordParts) :
    v = w := by
  have hkind : v.kind = w.kind := by
    have hsome := kindOfId?_recordParts v
    rw [h, kindOfId?_recordParts w] at hsome
    exact (Option.some.inj hsome).symm
  have hnumber : ∀ {x y : Single}, x ∈ v.singles → y ∈ w.singles →
      shortNumber x = shortNumber y → x = y :=
    fun hx hy => shortNumber_inj (hv _ hx) (hw _ hy)
  cases v <;> cases w <;> cases hkind
  all_goals
    simp only [recordParts, Prod.mk.injEq, List.cons.injEq, Json.str.injEq, Json.int.injEq,
      Json.obj.injEq, true_and, and_true] at h
  case text.text s s' => rw [h]
  case number.number x y =>
    rw [Binary.plain_inj (hv x (by simp [singles])) (hw y (by simp [singles])) h]
  case location.location l l' =>
    obtain ⟨hpitch, hx, hy, hyaw, hz⟩ := h
    congr 1
    ext1
    · exact hnumber (by simp [singles]) (by simp [singles]) hx
    · exact hnumber (by simp [singles]) (by simp [singles]) hy
    · exact hnumber (by simp [singles]) (by simp [singles]) hz
    · exact hnumber (by simp [singles]) (by simp [singles]) hpitch
    · exact hnumber (by simp [singles]) (by simp [singles]) hyaw
  case vector.vector v v' =>
    obtain ⟨hx, hy, hz⟩ := h
    congr 1
    ext1
    · exact hnumber (by simp [singles]) (by simp [singles]) hx
    · exact hnumber (by simp [singles]) (by simp [singles]) hy
    · exact hnumber (by simp [singles]) (by simp [singles]) hz
  case sound.sound s s' =>
    obtain ⟨hpitch, hname, hvolume⟩ := h
    congr 1
    ext1
    · exact hname
    · exact hnumber (by simp [singles]) (by simp [singles]) hpitch
    · exact hnumber (by simp [singles]) (by simp [singles]) hvolume
  case potion.potion p p' =>
    obtain ⟨hlevel, hduration, hname⟩ := h
    rw [Potion.ext hname (Int32.toInt_inj.mp hduration) (Int32.toInt_inj.mp hlevel)]
  case variable.variable v v' =>
    obtain ⟨hname, hscope⟩ := h
    rw [Variable.ext hname (Scope.wireName_inj hscope)]
  case gameValue.gameValue g g' =>
    obtain ⟨htarget, hkind⟩ := h
    rw [GameValue.ext hkind (Selector.name_inj htarget)]
  case particle.particle p p' => rw [Particle.recordData_inj hv hw h]
  case tag.tag t t' =>
    obtain ⟨haction, hblock, hoption, htag⟩ := h
    rw [Tag.ext haction htag hoption hblock]
  case item.item s s' => rw [h]

/-- A value whose numbers are finite is known from its record. -/
theorem toRecord_inj (hv : v.Finite) (hw : w.Finite) (h : v.toRecord = w.toRecord) : v = w := by
  simp only [toRecord, Json.obj.injEq, List.cons.injEq, Prod.mk.injEq, Json.str.injEq, true_and,
    and_true] at h
  exact recordParts_inj hv hw (Prod.ext h.2 h.1)

end Value

end Plotline
