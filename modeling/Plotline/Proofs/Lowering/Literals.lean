import Mathlib.Algebra.Group.Int.Defs
import Plotline.Lowering.Constant
import Plotline.Proofs.Outcome

/-!
# Constants that have a value

`Constant.Valid` says which constants have a value: their numbers are in the range of short numbers
or of whole numbers, and every setting of a particle exists and has a value of its form.
`Constant.succeeds_value` says that these are the constants that can be lowered.
-/

namespace Plotline.Script

open Numeral

/-! ## Numbers -/

/-- The absolute value is not larger than that of the largest short number. -/
def FitsSingle (x : Double) : Prop := x.magnitude ≤ largestSingle.magnitude

/-- A whole number in a range. -/
def WholeBetween (low high : Int) (x : Double) : Prop :=
  ∃ n, x.toInt? = some n ∧ low ≤ n ∧ n ≤ high

/-- A whole number of 32 bits. -/
def FitsInt32 (x : Double) : Prop := WholeBetween (-2 ^ 31) (2 ^ 31 - 1) x

theorem succeeds_single {x : Double} : Succeeds (single x) ↔ FitsSingle x := by
  rw [single, FitsSingle]
  split <;> simp [*]

theorem whole_eq_ok {what : String} {x : Double} {n : Int32} (h : whole what x = .ok n) :
    x.toInt? = some n.toInt ∧ -2 ^ 31 ≤ n.toInt ∧ n.toInt ≤ 2 ^ 31 - 1 := by
  rw [whole] at h
  split at h
  · rename_i m hm
    split at h
    · rename_i hrange
      cases h
      have hlow : -2 ^ 31 ≤ m := hrange.1
      have hhigh : m < 2 ^ 31 := hrange.2
      rw [Int32.toInt_ofInt_of_le hlow hhigh]
      exact ⟨hm, hlow, by omega⟩
    · cases h
  · cases h

theorem succeeds_whole {what : String} {x : Double} : Succeeds (whole what x) ↔ FitsInt32 x := by
  constructor
  · rintro ⟨n, hn⟩
    exact ⟨n.toInt, whole_eq_ok hn⟩
  · rintro ⟨n, hn, hlow, hhigh⟩
    have hrange : -Int.pow 2 31 ≤ n ∧ n < Int.pow 2 31 := ⟨hlow, Int.lt_of_le_sub_one hhigh⟩
    rw [whole, hn]
    dsimp only
    rw [if_pos hrange]
    exact succeeds_ok _

/-- A whole number that is checked once more for a smaller range. -/
theorem succeeds_whole_bind {what : String} {x : Double} {low high : Int} {α : Type}
    {f : Int32 → Except ConstantFault α} (hlow : -2 ^ 31 ≤ low) (hhigh : high ≤ 2 ^ 31 - 1)
    (h : ∀ n, Succeeds (f n) ↔ low ≤ n.toInt ∧ n.toInt ≤ high) :
    Succeeds (whole what x >>= f) ↔ WholeBetween low high x := by
  constructor
  · rintro ⟨a, ha⟩
    obtain ⟨n, hn, hf⟩ := bind_eq_ok ha
    exact ⟨n.toInt, (whole_eq_ok hn).1, (h n).mp ⟨a, hf⟩⟩
  · rintro ⟨m, hm, hrange⟩
    obtain ⟨n, hn⟩ : Succeeds (whole what x) := succeeds_whole.mpr ⟨m, hm, by omega, by omega⟩
    have heq : m = n.toInt := Option.some.inj (hm.symm.trans (whole_eq_ok hn).1)
    rw [hn]
    exact (h n).mpr (heq ▸ hrange)

theorem succeeds_percent {what : String} {x : Double} :
    Succeeds (percent what x) ↔ WholeBetween 0 100 x := by
  refine succeeds_whole_bind (by decide) (by decide) fun n => ?_
  split <;> simp [*, pure, Except.pure]

/-! ## Settings of particles -/

/-- What the value of a setting has to be. -/
inductive SettingForm
  | text
  | color
  | short
  | whole
  | percent

/-- The settings that a particle has. -/
def settingForm? : String → Option SettingForm
  | "material" => some .text
  | "color" => some .color
  | "amount" => some .whole
  | "spread_x" | "spread_y" | "motion_x" | "motion_y" | "motion_z" | "size" | "roll" => some .short
  | "size_variation" | "color_variation" | "motion_variation" => some .percent
  | _ => none

namespace SettingForm

/-- The value has the form. A color is a number of three bytes, or a text that spells one. -/
def Admits : SettingForm → SettingValue → Prop
  | .text, .text _ => True
  | .color, .text s => ∃ n, textColor? s = some n ∧ 0 ≤ n ∧ n ≤ 2 ^ 24 - 1
  | .color, .number x => WholeBetween 0 (2 ^ 24 - 1) x
  | .short, .number x => FitsSingle x
  | .whole, .number x => FitsInt32 x
  | .percent, .number x => WholeBetween 0 100 x
  | .text, .number _ | .short, .text _ | .whole, .text _ | .percent, .text _ => False

end SettingForm

/-- A particle has the setting, and its value has the right form. -/
def Setting.Valid (s : Setting) : Prop :=
  ∃ form, settingForm? s.name.name = some form ∧ form.Admits s.value

theorem succeeds_packedColor {n : Int} :
    Succeeds (packedColor n) ↔ 0 ≤ n ∧ n ≤ 2 ^ 24 - 1 := by
  have hpow : Int.pow 2 24 = 2 ^ 24 := rfl
  rw [packedColor, hpow]
  split
  · exact iff_of_true (succeeds_ok _) (by omega)
  · exact iff_of_false (not_succeeds_error _) (by omega)

theorem succeeds_color {value : SettingValue} :
    Succeeds (color value) ↔ SettingForm.color.Admits value := by
  cases value with
  | number x => exact succeeds_whole_bind (by decide) (by decide) fun n => succeeds_packedColor
  | text s =>
    rw [color, SettingForm.Admits]
    split
    · rename_i n hn
      rw [succeeds_packedColor]
      simp [hn]
    · rename_i hnone
      simp [hnone]

theorem succeeds_applySetting {p : Particle} {key : String} {value : SettingValue} :
    Succeeds (applySetting p key value) ↔
      ∃ form, settingForm? key = some form ∧ form.Admits value := by
  fun_cases settingForm? key with
  | case1 => cases value <;> simp [applySetting, SettingForm.Admits]
  | case2 => simp [applySetting, succeeds_color]
  | case14 =>
    -- a name that is no setting
    refine iff_of_false ?_ (by simp)
    cases value with
    | text s => simp [applySetting, *]
    | number x => simp [applySetting, applyNumber, *]
  | _ =>
    cases value with
    | text s => simp [applySetting, SettingForm.Admits]
    | number x =>
      simp [applySetting, applyNumber, SettingForm.Admits, succeeds_single, succeeds_whole,
        succeeds_percent]

/-! ## Constants -/

/-- The numbers of the constant are in range, and its settings are valid. -/
def Constant.Valid : Constant → Prop
  | .text _ | .item _ => True
  | .number x => FitsSingle x
  | .location x y z pitch yaw =>
    FitsSingle x ∧ FitsSingle y ∧ FitsSingle z ∧ FitsSingle pitch ∧ FitsSingle yaw
  | .vector x y z => FitsSingle x ∧ FitsSingle y ∧ FitsSingle z
  | .sound _ pitch volume => FitsSingle pitch ∧ FitsSingle volume
  | .potion _ duration level => FitsInt32 duration ∧ FitsInt32 level
  | .particle _ settings => ∀ s ∈ settings, s.Valid

/-- The kind of a constant's value. -/
def Constant.kind : Constant → ValueKind
  | .text _ => .text
  | .number _ => .number
  | .location .. => .location
  | .vector .. => .vector
  | .sound .. => .sound
  | .potion .. => .potion
  | .particle .. => .particle
  | .item _ => .item

theorem succeeds_blame {α : Type} {span : Span} {x : Except ConstantFault α} :
    Succeeds (blame span x) ↔ Succeeds x := by
  cases x with
  | ok a => exact iff_of_true (succeeds_ok a) (succeeds_ok a)
  | error e => exact iff_of_false (not_succeeds_error _) (not_succeeds_error e)

theorem succeeds_particle {name : String} {settings : List Setting} :
    Succeeds (particle name settings) ↔ ∀ s ∈ settings, s.Valid := by
  refine succeeds_foldlM_iff fun p s => ?_
  rw [succeeds_blame, succeeds_applySetting, Setting.Valid]

/-- The constants that can be lowered are the valid ones. -/
theorem Constant.succeeds_value {c : Constant} {span : Span} :
    Succeeds (c.value span) ↔ c.Valid := by
  cases c with
  | particle name settings => exact succeeds_bind_pure.trans succeeds_particle
  | text s => exact iff_of_true (succeeds_ok _) trivial
  | item payload => exact iff_of_true (succeeds_ok _) trivial
  | number x => exact succeeds_blame.trans (succeeds_bind_pure.trans succeeds_single)
  | location x y z pitch yaw =>
    refine succeeds_blame.trans ?_
    simp only [plainValue, Valid, ← succeeds_single]
    iterate 4 refine succeeds_bind_iff fun _ _ => ?_
    exact succeeds_bind_pure
  | vector x y z =>
    refine succeeds_blame.trans ?_
    simp only [plainValue, Valid, ← succeeds_single]
    iterate 2 refine succeeds_bind_iff fun _ _ => ?_
    exact succeeds_bind_pure
  | sound name pitch volume =>
    refine succeeds_blame.trans ?_
    simp only [plainValue, Valid, ← succeeds_single]
    exact succeeds_bind_iff fun _ _ => succeeds_bind_pure
  | potion name duration level =>
    refine succeeds_blame.trans ?_
    rw [Valid, ← succeeds_whole, ← succeeds_whole]
    exact succeeds_bind_iff fun _ _ => succeeds_bind_pure

theorem eq_ok_of_blame {α : Type} {span : Span} {x : Except ConstantFault α} {a : α}
    (h : blame span x = .ok a) : x = .ok a := by
  cases x with
  | ok b =>
    cases h
    rfl
  | error e => cases h

theorem Constant.kind_of_value {c : Constant} {span : Span} {v : Value}
    (h : c.value span = .ok v) : v.kind = c.kind := by
  cases c with
  | particle name settings =>
    obtain ⟨p, -, hret⟩ := bind_eq_ok h
    cases hret
    rfl
  | text | item =>
    cases h
    rfl
  | number x =>
    obtain ⟨x', -, hret⟩ := bind_eq_ok (eq_ok_of_blame h)
    cases hret
    rfl
  | location x y z pitch yaw =>
    have hvalue := eq_ok_of_blame h
    iterate 5 obtain ⟨_, -, hvalue⟩ := bind_eq_ok hvalue
    cases hvalue
    rfl
  | vector x y z =>
    have hvalue := eq_ok_of_blame h
    iterate 3 obtain ⟨_, -, hvalue⟩ := bind_eq_ok hvalue
    cases hvalue
    rfl
  | sound | potion =>
    have hvalue := eq_ok_of_blame h
    iterate 2 obtain ⟨_, -, hvalue⟩ := bind_eq_ok hvalue
    cases hvalue
    rfl

end Plotline.Script
