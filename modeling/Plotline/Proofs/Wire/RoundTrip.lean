import Plotline.Proofs.Numeral.Respelling
import Plotline.Proofs.Outcome
import Plotline.Proofs.Wire.Records

/-!
# Reading records back

A value whose numbers are finite is read from its wire record as a value of its kind. Every field is
written under the key that it is read from, and a setting of a particle is left open by reading
exactly when it was not written (`member?_present`). Texts, whole numbers and names come back as
they are, and so does the number of a number record, whose plain text is read as a short number.

All other numbers travel as long numbers (`Binary.reread`). So a value is read as `Value.reread`,
which is the value itself exactly when each of these numbers is read as itself
(`Value.reread_eq_self_iff`). The number `7.038531e-26` is not: its digits are so near to the middle
between it and the next number that the long number they spell is the middle.
-/

namespace Plotline

open Numeral

/-! ## Numbers that travel as long numbers -/

/-- What is read for a short number that travels as a long one. -/
def Numeral.Binary.reread (x : Single) : Single := x.respelled.convert

theorem single?_shortNumber {x : Single} (hx : x.isFinite = true) :
    RecordData.single? (shortNumber x) = some x.reread := by
  rw [shortNumber, if_pos hx]
  rfl

theorem int32?_toInt (n : Int32) : Json.int32? (.int n.toInt) = some n := by
  have hlow := n.le_toInt
  have hhigh := n.toInt_lt
  have hpow : Int.pow 2 31 = 2 ^ 31 := rfl
  rw [Json.int32?, Json.intWithin?, if_pos (by rw [hpow]; omega), Option.map_some, Int32.ofInt_toInt]

/-! ## Fields -/

/-- A setting is found among those that are not left open exactly when it is not left open. -/
theorem member?_present {settings : List (String × Option Json)} {k : String} {o : Option Json}
    (hnodup : (settings.map Prod.fst).Nodup) (hmem : (k, o) ∈ settings) :
    Json.member? (present settings) k = o := by
  induction settings with
  | nil => cases hmem
  | cons s settings ih =>
    obtain ⟨k', o'⟩ := s
    obtain ⟨hk', hnodup'⟩ : k' ∉ settings.map Prod.fst ∧ (settings.map Prod.fst).Nodup :=
      List.nodup_cons.mp hnodup
    rcases List.mem_cons.mp hmem with heq | hrest
    · obtain ⟨rfl, rfl⟩ := Prod.mk.inj heq
      cases o with
      | some j => simp [present, Json.member?]
      | none =>
        -- the key is not in the rest either
        have hnone : (present settings).find? (fun m => m.1 = k) = none := by
          rw [List.find?_eq_none]
          intro m hm hsame
          have hkey : m.1 = k := by simpa using hsame
          exact hk' (hkey ▸ mem_keys_of_mem_present hm)
        exact congrArg (Option.map Prod.snd) hnone
    · have hne : k' ≠ k := by
        rintro rfl
        exact hk' (List.mem_map.mpr ⟨_, hrest, rfl⟩)
      have hskip : Json.member? (present ((k', o') :: settings)) k =
          Json.member? (present settings) k := by
        cases o' with
        | none => rfl
        | some j =>
          have hcons : present ((k', some j) :: settings) = (k', j) :: present settings := rfl
          rw [hcons, Json.member?, List.find?_cons_of_neg (by simpa using hne), ← Json.member?]
      rw [hskip, ih hnodup' hrest]

namespace RecordData

variable {α β : Type} {d : RecordData} {name : String}

theorem field_eq_ok {read : Json → Option α} {j : Json} {a : α}
    (hmember : Json.member? d.members name = some j) (hread : read j = some a) :
    d.field name read = .ok a := by
  simp only [field, hmember, hread]

theorem string_eq_ok {s : String} (hmember : Json.member? d.members name = some (.str s)) :
    d.string name = .ok s :=
  field_eq_ok hmember rfl

theorem number_eq_ok {x : Single} (hx : x.isFinite = true)
    (hmember : Json.member? d.members name = some (shortNumber x)) :
    d.number name = .ok x.reread :=
  field_eq_ok hmember (single?_shortNumber hx)

theorem int_eq_ok {n : Int32} (hmember : Json.member? d.members name = some (.int n.toInt)) :
    d.int name = .ok n :=
  field_eq_ok hmember (int32?_toInt n)

theorem inner_eq_ok {members : List (String × Json)}
    (hmember : Json.member? d.members name = some (.obj members)) :
    d.inner name = .ok ⟨d.id, members⟩ := by
  simp only [inner, hmember]

theorem field?_eq_ok {read : Json → Option β} {write : α → Json} {f : α → β} {o : Option α}
    (hmember : Json.member? d.members name = o.map write)
    (hread : ∀ a ∈ o, read (write a) = some (f a)) : d.field? name read = .ok (o.map f) := by
  cases o with
  | none => simp only [field?, hmember, Option.map_none]
  | some a =>
    have hfield := field_eq_ok hmember (hread a rfl)
    simp only [field?, hmember, Option.map_some, hfield]
    rfl

end RecordData

/-! ## Values -/

/-- What is read for a particle. -/
def Particle.reread (p : Particle) : Particle :=
  { p with
    spreadX := p.spreadX.reread
    spreadY := p.spreadY.reread
    motionX := p.motionX.map Binary.reread
    motionY := p.motionY.map Binary.reread
    motionZ := p.motionZ.map Binary.reread
    size := p.size.map Binary.reread
    roll := p.roll.map Binary.reread }

theorem Particle.ofRecord_recordData {p : Particle} (hp : (Value.particle p).Finite) :
    ofRecord ⟨"part", p.recordData⟩ = .ok p.reread := by
  have hspreadX : p.spreadX.isFinite = true := hp _ (by simp [Value.singles])
  have hspreadY : p.spreadY.isFinite = true := hp _ (by simp [Value.singles])
  have hfield : ∀ {α β : Type} {k : String} {o : Option α} {write : α → Json}
      {read : Json → Option β} {f : α → β}, (k, o.map write) ∈ p.settings →
      (∀ a ∈ o, read (write a) = some (f a)) →
      RecordData.field? ⟨"part", p.recordSettings⟩ k read = .ok (o.map f) := by
    intro α β k o write read f hmem hread
    refine RecordData.field?_eq_ok ?_ hread
    rw [recordSettings_eq]
    exact member?_present (by rw [keys_settings]; exact settingKeys_nodup) hmem
  have hnumber : ∀ (k : String) (o : Option Single), (k, o.map shortNumber) ∈ p.settings →
      o ∈ [p.motionX, p.motionY, p.motionZ, p.size, p.roll] →
      RecordData.field? ⟨"part", p.recordSettings⟩ k RecordData.single? =
        .ok (o.map Binary.reread) := by
    intro k o hmem ho
    refine hfield hmem fun x hx => single?_shortNumber (hp x ?_)
    exact List.mem_append_right _ (List.mem_flatMap.mpr ⟨o, ho, Option.mem_toList.mpr hx⟩)
  have hint : ∀ (k : String) (o : Option Int32),
      (k, o.map fun n => Json.int n.toInt) ∈ p.settings →
      RecordData.field? ⟨"part", p.recordSettings⟩ k Json.int32? = .ok o := by
    intro k o hmem
    rw [hfield hmem fun n _ => int32?_toInt n, Option.map_id']
  have hmaterial : RecordData.field? ⟨"part", p.recordSettings⟩ "material" Json.string? =
      .ok p.material := by
    have hmem : ("material", p.material.map Json.str) ∈ p.settings := by simp [settings]
    rw [hfield (f := id) hmem fun _ _ => rfl, Option.map_id_apply]
  rw [ofRecord, RecordData.inner_eq_ok rfl, ok_bind, RecordData.inner_eq_ok rfl, ok_bind,
    RecordData.string_eq_ok rfl, ok_bind, RecordData.int_eq_ok rfl, ok_bind,
    RecordData.number_eq_ok hspreadX rfl, ok_bind, RecordData.number_eq_ok hspreadY rfl, ok_bind,
    hnumber "x" p.motionX (by simp [settings]) (by simp), ok_bind,
    hnumber "y" p.motionY (by simp [settings]) (by simp), ok_bind,
    hnumber "z" p.motionZ (by simp [settings]) (by simp), ok_bind,
    hnumber "size" p.size (by simp [settings]) (by simp), ok_bind,
    hnumber "roll" p.roll (by simp [settings]) (by simp), ok_bind,
    hint "sizeVariation" p.sizeVariation (by simp [settings]), ok_bind,
    hint "colorVariation" p.colorVariation (by simp [settings]), ok_bind,
    hint "motionVariation" p.motionVariation (by simp [settings]), ok_bind, hmaterial, ok_bind,
    hint "rgb" p.color (by simp [settings]), ok_bind]
  rfl

namespace Value

variable {v : Value}

/-- What is read for a value. -/
def reread : Value → Value
  | .location l => .location ⟨l.x.reread, l.y.reread, l.z.reread, l.pitch.reread, l.yaw.reread⟩
  | .vector v => .vector ⟨v.x.reread, v.y.reread, v.z.reread⟩
  | .sound s => .sound ⟨s.name, s.pitch.reread, s.volume.reread⟩
  | .particle p => .particle p.reread
  | v => v

theorem kind_reread (v : Value) : v.reread.kind = v.kind := by cases v <;> rfl

/-- Reading the record of a value succeeds. -/
theorem ofRecord_toRecord (hv : v.Finite) : ofRecord v.toRecord = .ok v.reread := by
  have hrecord : ofRecord v.toRecord = ofRecordData ⟨v.recordParts.1, v.recordParts.2⟩ := rfl
  rw [hrecord]
  cases v with
  | text s => rfl
  | number x =>
    have hx : x.isFinite = true := hv _ (by simp [singles])
    have hread : Option.bind (Json.string? (.str x.plain)) (Decimal.read? .single) = some x :=
      Binary.read?_plain hx
    simp only [recordParts, ofRecordData]
    rw [RecordData.field_eq_ok rfl hread]
    rfl
  | location l =>
    have hx : l.x.isFinite = true := hv _ (by simp [singles])
    have hy : l.y.isFinite = true := hv _ (by simp [singles])
    have hz : l.z.isFinite = true := hv _ (by simp [singles])
    have hpitch : l.pitch.isFinite = true := hv _ (by simp [singles])
    have hyaw : l.yaw.isFinite = true := hv _ (by simp [singles])
    simp only [recordParts, ofRecordData]
    rw [RecordData.inner_eq_ok rfl, ok_bind, RecordData.number_eq_ok hx rfl, ok_bind,
      RecordData.number_eq_ok hy rfl, ok_bind, RecordData.number_eq_ok hz rfl, ok_bind,
      RecordData.number_eq_ok hpitch rfl, ok_bind, RecordData.number_eq_ok hyaw rfl]
    rfl
  | vector v =>
    have hx : v.x.isFinite = true := hv _ (by simp [singles])
    have hy : v.y.isFinite = true := hv _ (by simp [singles])
    have hz : v.z.isFinite = true := hv _ (by simp [singles])
    simp only [recordParts, ofRecordData]
    rw [RecordData.number_eq_ok hx rfl, ok_bind,
      RecordData.number_eq_ok hy rfl, ok_bind, RecordData.number_eq_ok hz rfl]
    rfl
  | sound s =>
    have hpitch : s.pitch.isFinite = true := hv _ (by simp [singles])
    have hvolume : s.volume.isFinite = true := hv _ (by simp [singles])
    simp only [recordParts, ofRecordData]
    rw [RecordData.string_eq_ok rfl, ok_bind, RecordData.number_eq_ok hpitch rfl, ok_bind,
      RecordData.number_eq_ok hvolume rfl]
    rfl
  | potion p =>
    simp only [recordParts, ofRecordData]
    rw [RecordData.int_eq_ok rfl, RecordData.int_eq_ok rfl]
    rfl
  | «variable» v =>
    have hread : Option.bind (Json.string? (.str v.scope.wireName)) Scope.ofWireName? =
        some v.scope := Scope.ofWireName?_wireName v.scope
    simp only [recordParts, ofRecordData]
    rw [RecordData.field_eq_ok rfl hread]
    rfl
  | gameValue g =>
    have hread : Option.bind (Json.string? (.str g.target.name)) Selector.ofName? =
        some g.target := Selector.ofName?_name g.target
    simp only [recordParts, ofRecordData]
    rw [RecordData.field_eq_ok rfl hread]
    rfl
  | particle p =>
    simp only [recordParts, ofRecordData]
    rw [Particle.ofRecord_recordData hv]
    rfl
  | tag t => rfl
  | item payload => rfl

/-- The numbers in a value that travel as long numbers. -/
def longNumbers : Value → List Single
  | .number _ => []
  | v => v.singles

theorem reread_eq_self_iff (v : Value) : v.reread = v ↔ ∀ x ∈ v.longNumbers, x.reread = x := by
  cases v with
  | location l => simp [reread, longNumbers, singles, Location.ext_iff]
  | vector v => simp [reread, longNumbers, singles, Vector3.ext_iff]
  | sound s => simp [reread, longNumbers, singles, Sound.ext_iff]
  | particle p =>
    have hsetting : ∀ o : Option Single, o.map Binary.reread = o ↔ ∀ x ∈ o, x.reread = x := by
      intro o
      cases o <;> simp
    simp only [reread, Particle.reread, Particle.ext_iff, particle.injEq, longNumbers, singles,
      hsetting, List.flatMap_cons, List.flatMap_nil, List.append_nil, List.forall_mem_append,
      List.forall_mem_cons, Option.mem_toList, true_and, and_true]
    simp [and_assoc]
  | _ => simp [reread, longNumbers, singles]

theorem mem_singles_of_mem_longNumbers {x : Single} (hx : x ∈ v.longNumbers) : x ∈ v.singles := by
  cases v with
  | number y => cases hx
  | _ => exact hx

/-- None of the numbers that travel as long numbers is `7.038531e-26` or its negative. -/
def Stable (v : Value) : Prop := ∀ x ∈ v.longNumbers, x.Stable

instance (v : Value) : Decidable v.Stable := inferInstanceAs (Decidable (∀ x ∈ v.longNumbers, _))

end Value

namespace Sample

/-- The long number that the digits of the first number spell is nearer to the next one. -/
def speck : Value := .vector ⟨⟨false, 0x15ae43fd⟩, .zero, .zero⟩

/-- The settings hold the least positive number, its negative, the largest number, and the
neighbours of the number in `speck`. -/
def smoke : Value :=
  .particle {
    name := "Smoke"
    amount := -2147483648
    spreadX := ⟨true, 0⟩
    spreadY := ⟨true, 0x15ae43fc⟩
    motionX := some ⟨false, 1⟩
    motionZ := some ⟨true, 1⟩
    size := some .largest
    roll := some ⟨false, 0x15ae43fe⟩
    colorVariation := some 2147483647
    material := some ""
    color := some (-1) }

end Sample

/-- **Records are read back.** Reading the record of a value whose numbers are finite gives a value
of the same kind. It is the value itself exactly when no number in it, other than that of a number
record, is `7.038531e-26` or its negative. -/
theorem ofRecord_toRecord_iff_stable {v : Value} (hv : v.Finite) :
    ∃ w, Value.ofRecord v.toRecord = .ok w ∧ w.kind = v.kind ∧ (w = v ↔ v.Stable) := by
  refine ⟨v.reread, Value.ofRecord_toRecord hv, v.kind_reread, ?_⟩
  rw [Value.reread_eq_self_iff]
  refine forall₂_congr fun x hx => ?_
  exact Binary.convert_respelled_iff (hv x (Value.mem_singles_of_mem_longNumbers hx))

/-- Neighbours of an exception are none, and zero keeps its sign. -/
theorem smoke_read_back :
    Sample.smoke.Finite ∧ Sample.smoke.Stable ∧
      Value.ofRecord Sample.smoke.toRecord = .ok Sample.smoke := by
  have hfinite : Sample.smoke.Finite := by decide
  have hstable : Sample.smoke.Stable := by decide +kernel
  obtain ⟨w, hread, -, hiff⟩ := ofRecord_toRecord_iff_stable hfinite
  exact ⟨hfinite, hstable, hiff.mpr hstable ▸ hread⟩

/-- One value with finite numbers is read as another. -/
theorem speck_read_as_next :
    Sample.speck.Finite ∧
      Value.ofRecord Sample.speck.toRecord =
        .ok (.vector ⟨⟨false, 0x15ae43fe⟩, .zero, .zero⟩) ∧
      Value.ofRecord Sample.speck.toRecord ≠ .ok Sample.speck := by
  decide +kernel

end Plotline
