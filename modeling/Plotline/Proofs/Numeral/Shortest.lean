import Mathlib.Algebra.Order.Field.Power
import Mathlib.Algebra.Order.Floor.Semifield
import Mathlib.Data.Nat.Cast.Order.Field
import Mathlib.Data.Rat.Floor
import Mathlib.Data.Rat.Cast.Order
import Mathlib.Tactic.FieldSimp
import Mathlib.Tactic.Positivity
import Plotline.Numeral.Decimal
import Plotline.Proofs.Numeral.Rounding
import Plotline.Value.Record

/-!
# Shortest decimals of short numbers

A decimal is rounded by its value alone (`Decimal.magnitude_congr`). The shortest decimal of a short
number has at most nine digits, because the largest decimal with nine digits that is not above the
number is near enough to read back as it (`Decimal.magnitude_below_nine`).

Decimals with so few digits are far apart, compared to the steps of the long format. So different
ones stay different when they are rounded to long numbers (`Decimal.value_eq_of_magnitude_eq`), and
a short number is known from the long number that its digits spell (`Binary.respelled_inj`).
-/

namespace Plotline.Numeral

namespace Decimal

/-! ## Values -/

/-- The number that a decimal stands for. -/
def value (x : Decimal) : ℚ := x.digits * (10 : ℚ) ^ x.exponent

/-- A decimal that is rounded by its value: it is not zero, and neither far too large nor far too
small. -/
structure InReach (x : Decimal) : Prop where
  ne_zero : x.digits ≠ 0
  low : -reach ≤ x.exponent + width x.digits
  high : x.exponent + width x.digits ≤ reach

theorem lt_pow_width (n : Nat) : n < 10 ^ width n :=
  (Nat.length_repr_le_iff Nat.length_repr_pos).mp le_rfl

theorem pow_width_le {n : Nat} (hn : 0 < n) : 10 ^ (width n - 1) ≤ n := by
  rcases Nat.eq_zero_or_pos (width n - 1) with h | h
  · rw [h]
    exact hn
  · by_contra hlt
    have hle : width n ≤ width n - 1 := (Nat.length_repr_le_iff h).mpr (by omega)
    have hpos : 0 < width n := Nat.length_repr_pos
    omega

theorem width_le {n k : Nat} (hk : 0 < k) (h : n < 10 ^ k) : width n ≤ k :=
  (Nat.length_repr_le_iff hk).mpr h

theorem width_pos (n : Nat) : 0 < width n := Nat.length_repr_pos

section

variable {x y : Decimal} {f : Format}

/-- The fraction that a decimal is rounded as. -/
theorem exists_fraction (h : x.InReach) :
    ∃ n d : Nat, 0 < d ∧ (n : ℚ) = x.value * d ∧ ∀ f, x.magnitude f = f.nearest n d := by
  have hlow : ¬ (x.digits = 0 ∨ x.exponent + width x.digits < -reach) := by
    rintro (hzero | hlt)
    · exact h.ne_zero hzero
    · have hge := h.low
      omega
  have hhigh : ¬ reach < x.exponent + width x.digits := by
    have hle := h.high
    omega
  rcases lt_or_ge x.exponent 0 with hneg | hpos
  · obtain ⟨k, hk⟩ := Int.exists_eq_neg_ofNat hneg.le
    refine ⟨x.digits, 10 ^ k, by positivity, ?_, fun f => ?_⟩
    · rw [value, hk, zpow_neg, zpow_natCast]
      push_cast
      field_simp
    · have hnat : (-x.exponent).toNat = k := by omega
      rw [magnitude, if_neg hlow, if_neg hhigh, if_neg (by omega), hnat]
      rfl
  · obtain ⟨k, hk⟩ := Int.eq_ofNat_of_zero_le hpos
    refine ⟨x.digits * 10 ^ k, 1, Nat.one_pos, ?_, fun f => ?_⟩
    · rw [value, hk, zpow_natCast]
      push_cast
      ring
    · have hnat : x.exponent.toNat = k := by omega
      rw [magnitude, if_neg hlow, if_neg hhigh, if_pos hpos, hnat]
      rfl

/-- The power of ten at the leading digit comes from the value. -/
theorem value_bounds (h : 0 < x.digits) :
    (10 : ℚ) ^ (x.exponent + width x.digits - 1) ≤ x.value ∧
      x.value < 10 ^ (x.exponent + width x.digits) := by
  obtain ⟨w, hw⟩ := Nat.exists_eq_add_of_le' (width_pos x.digits)
  have hlow := pow_width_le h
  have hhigh := lt_pow_width x.digits
  have hpow : (0 : ℚ) < 10 ^ x.exponent := zpow_pos (by norm_num) _
  rw [hw, Nat.add_sub_cancel] at hlow
  rw [hw] at hhigh
  have hlow' : (10 : ℚ) ^ w ≤ x.digits := by exact_mod_cast hlow
  have hhigh' : (x.digits : ℚ) < 10 ^ (w + 1) := by exact_mod_cast hhigh
  have hexp : x.exponent + ((w + 1 : Nat) : ℤ) - 1 = w + x.exponent := by
    push_cast
    ring
  rw [hw, hexp, zpow_add₀ (by norm_num), zpow_natCast, add_comm x.exponent,
    zpow_add₀ (by norm_num), zpow_natCast]
  exact ⟨mul_le_mul_of_nonneg_right hlow' hpow.le, mul_lt_mul_of_pos_right hhigh' hpow⟩

theorem InReach.congr (hx : x.InReach) (h : x.value = y.value) : y.InReach := by
  have hxpos : 0 < x.digits := Nat.pos_of_ne_zero hx.ne_zero
  have hypos : 0 < y.digits := by
    rw [Nat.pos_iff_ne_zero]
    intro hzero
    obtain ⟨hlow, -⟩ := value_bounds hxpos
    have hpow : (0 : ℚ) < 10 ^ (x.exponent + width x.digits - 1) := zpow_pos (by norm_num) _
    have hvalue : y.value = 0 := by rw [value, hzero, Nat.cast_zero, zero_mul]
    rw [h, hvalue] at hlow
    exact absurd hlow (not_le.mpr hpow)
  obtain ⟨hxlow, hxhigh⟩ := value_bounds hxpos
  obtain ⟨hylow, hyhigh⟩ := value_bounds hypos
  rw [h] at hxlow hxhigh
  have hle := (zpow_lt_zpow_iff_right₀ (by norm_num)).mp (lt_of_le_of_lt hxlow hyhigh)
  have hge := (zpow_lt_zpow_iff_right₀ (by norm_num)).mp (lt_of_le_of_lt hylow hxhigh)
  have hreach := hx.low
  have hreach' := hx.high
  exact ⟨hypos.ne', by omega, by omega⟩

/-- Decimals of the same value are rounded to the same magnitude. -/
theorem magnitude_congr (hx : x.InReach) (hy : y.InReach) (h : x.value = y.value) :
    x.magnitude f = y.magnitude f := by
  obtain ⟨n, d, hd, hn, hmag⟩ := exists_fraction hx
  obtain ⟨n', d', hd', hn', hmag'⟩ := exists_fraction hy
  rw [hmag, hmag']
  refine Format.nearest_congr hd hd' ?_
  have hcross : (n : ℚ) * d' = n' * d := by
    rw [hn, hn', h]
    ring
  exact_mod_cast hcross

/-- A decimal between the middles of the gaps around a magnitude is rounded to it. -/
theorem magnitude_eq_of_near {m : Nat} (hx : x.InReach) (hm : m < f.infinity)
    (hlow : (f.units (m - 1) + f.units m : ℚ) < 2 * (x.value * 2 ^ f.depth))
    (hhigh : 2 * (x.value * 2 ^ f.depth) < (f.units m + f.units (m + 1) : ℚ)) :
    x.magnitude f = m := by
  obtain ⟨n, d, hd, hn, hmag⟩ := exists_fraction hx
  have hd' : (0 : ℚ) < d := by exact_mod_cast hd
  have hscale : 2 * ((n : ℚ) * 2 ^ f.depth) = 2 * (x.value * 2 ^ f.depth) * d := by
    rw [hn]
    ring
  rw [hmag]
  refine Format.nearest_eq_of_near hm (fun _ => ?_) ?_
  · have hmul := mul_lt_mul_of_pos_right hlow hd'
    rw [← hscale] at hmul
    exact_mod_cast hmul
  · have hmul := mul_lt_mul_of_pos_right hhigh hd'
    rw [← hscale] at hmul
    exact_mod_cast hmul

/-- A decimal is not beyond the middles of the gaps around the magnitude that it is rounded to. -/
theorem magnitude_bounds (hx : x.InReach) (hfinite : x.magnitude f < f.infinity) :
    (f.units (x.magnitude f - 1) + f.units (x.magnitude f) : ℚ) ≤ 2 * (x.value * 2 ^ f.depth) ∧
      2 * (x.value * 2 ^ f.depth) ≤
        (f.units (x.magnitude f) + f.units (x.magnitude f + 1) : ℚ) := by
  obtain ⟨n, d, hd, hn, hmag⟩ := exists_fraction hx
  have hd' : (0 : ℚ) < d := by exact_mod_cast hd
  have hscale : 2 * (x.value * 2 ^ f.depth) * d = 2 * ((n : ℚ) * 2 ^ f.depth) := by
    rw [hn]
    ring
  rw [hmag] at hfinite ⊢
  obtain ⟨hlow, hhigh⟩ := Format.nearest_bounds hd hfinite
  constructor
  · refine le_of_mul_le_mul_right ?_ hd'
    rw [hscale]
    exact_mod_cast hlow
  · refine le_of_mul_le_mul_right ?_ hd'
    rw [hscale]
    exact_mod_cast hhigh

/-- A decimal that is a value of the format is rounded to it. -/
theorem magnitude_eq_of_value_eq {m : Nat} (hx : x.InReach) (hm : m < f.infinity)
    (h : x.value * 2 ^ f.depth = f.units m) : x.magnitude f = m := by
  have hm0 : 0 < m := by
    rw [Nat.pos_iff_ne_zero]
    rintro rfl
    have hunits : f.units 0 = 0 := Format.units_of_lt Format.binade_pos
    have hdigits : (0 : ℚ) < x.digits := by exact_mod_cast Nat.pos_of_ne_zero hx.ne_zero
    have hpos : 0 < x.value * 2 ^ f.depth :=
      mul_pos (mul_pos hdigits (zpow_pos (by norm_num) _)) (by positivity)
    rw [h, hunits] at hpos
    exact absurd hpos (by simp)
  have hpred : (f.units (m - 1) : ℚ) < f.units m := by exact_mod_cast Format.units_pred_lt hm0
  have hnext : (f.units m : ℚ) < f.units (m + 1) := by
    exact_mod_cast Format.units_pred_lt (Nat.succ_pos m)
  refine magnitude_eq_of_near hx hm ?_ ?_
  · rw [h]
    linarith
  · rw [h]
    linarith

/-- What is below the end of a finite binade is not rounded to infinity. -/
theorem magnitude_lt_infinity {t : Nat} (hx : x.InReach)
    (hhigh : x.value * 2 ^ f.depth < 2 ^ (f.fractionBits + 1 + t))
    (ht : (t + 2) * f.binade < f.infinity) : x.magnitude f < f.infinity := by
  obtain ⟨n, d, hd, hn, hmag⟩ := exists_fraction hx
  have hd' : (0 : ℚ) < d := by exact_mod_cast hd
  rw [hmag]
  refine Format.nearest_lt_infinity hd ?_ ht
  have hmul := mul_lt_mul_of_pos_right hhigh hd'
  have hscale : x.value * 2 ^ f.depth * d = (n : ℚ) * 2 ^ f.depth := by
    rw [hn]
    ring
  rw [hscale] at hmul
  exact_mod_cast hmul

/-- The relative error when a decimal is rounded. -/
theorem magnitude_error {t : Nat} (hx : x.InReach) (hlow : (f.binade : ℚ) ≤ x.value * 2 ^ f.depth)
    (hhigh : x.value * 2 ^ f.depth < 2 ^ (f.fractionBits + 1 + t))
    (ht : (t + 2) * f.binade < f.infinity) :
    2 * f.binade * (f.units (x.magnitude f) : ℚ) ≤ (2 * f.binade + 1) * (x.value * 2 ^ f.depth) ∧
      (2 * f.binade - 1) * (x.value * 2 ^ f.depth) ≤
        2 * f.binade * (f.units (x.magnitude f) : ℚ) := by
  obtain ⟨n, d, hd, hn, hmag⟩ := exists_fraction hx
  have hd' : (0 : ℚ) < d := by exact_mod_cast hd
  have hscale : (n : ℚ) * 2 ^ f.depth = x.value * 2 ^ f.depth * d := by
    rw [hn]
    ring
  have hnormal : f.binade * d ≤ n * 2 ^ f.depth := by
    have hmul := mul_le_mul_of_nonneg_right hlow hd'.le
    rw [← hscale] at hmul
    exact_mod_cast hmul
  have hfinite := magnitude_lt_infinity hx hhigh ht
  rw [hmag] at hfinite
  obtain ⟨hle, hge⟩ := Format.nearest_error hd hnormal hfinite
  have hpos : 1 ≤ 2 * f.binade := by
    have hbinade : 0 < f.binade := Format.binade_pos
    omega
  rw [hmag]
  constructor
  · refine le_of_mul_le_mul_right ?_ hd'
    calc 2 * f.binade * (f.units (f.nearest n d) : ℚ) * d
      _ = ((2 * f.binade * (f.units (f.nearest n d) * d) : Nat) : ℚ) := by push_cast; ring
      _ ≤ (((2 * f.binade + 1) * (n * 2 ^ f.depth) : Nat) : ℚ) := by exact_mod_cast hle
      _ = (2 * f.binade + 1) * (x.value * 2 ^ f.depth) * d := by push_cast; rw [hscale]; ring
  · refine le_of_mul_le_mul_right ?_ hd'
    calc (2 * f.binade - 1) * (x.value * 2 ^ f.depth) * d
      _ = (((2 * f.binade - 1) * (n * 2 ^ f.depth) : Nat) : ℚ) := by
          push_cast [Nat.cast_sub hpos]
          rw [hscale]
          ring
      _ ≤ ((2 * f.binade * (f.units (f.nearest n d) * d) : Nat) : ℚ) := by exact_mod_cast hge
      _ = 2 * f.binade * (f.units (f.nearest n d) : ℚ) * d := by push_cast; ring

end

/-! ## Decimals with few digits -/

/-- At most nine digits, or a power of ten, and an exponent that short numbers can have. -/
structure Short (x : Decimal) : Prop where
  pos : 0 < x.digits
  digits_le : x.digits ≤ 10 ^ 9
  low : -60 ≤ x.exponent
  high : x.exponent ≤ 40

section

variable {x y : Decimal}

theorem Short.inReach (h : x.Short) : x.InReach := by
  have hlow := h.low
  have hhigh := h.high
  have hpos := width_pos x.digits
  have hle : width x.digits ≤ 10 := by
    refine width_le (by decide) (lt_of_le_of_lt h.digits_le ?_)
    norm_num
  refine ⟨h.pos.ne', ?_, ?_⟩ <;> simp only [reach] <;> omega

theorem Short.value_pos (h : x.Short) : 0 < x.value := by
  have hpos : (0 : ℚ) < x.digits := by exact_mod_cast h.pos
  exact mul_pos hpos (zpow_pos (by norm_num) _)

/-- A decimal with few digits is neither too small nor too large for a long number. -/
theorem Short.bounds_double (h : x.Short) :
    (Format.double.binade : ℚ) ≤ x.value * 2 ^ Format.double.depth ∧
      x.value * 2 ^ Format.double.depth < 2 ^ (Format.double.fractionBits + 1 + 1184) := by
  have hone : (1 : ℚ) ≤ x.digits := by exact_mod_cast h.pos
  have hdigits : (x.digits : ℚ) ≤ 10 ^ 9 := by exact_mod_cast h.digits_le
  have hpos : (0 : ℚ) < 10 ^ x.exponent := zpow_pos (by norm_num) _
  have hlow : (10 : ℚ) ^ (-60 : ℤ) ≤ 10 ^ x.exponent := zpow_le_zpow_right₀ (by norm_num) h.low
  have hhigh : (10 : ℚ) ^ x.exponent ≤ 10 ^ (40 : ℤ) := zpow_le_zpow_right₀ (by norm_num) h.high
  have hge : (10 : ℚ) ^ (-60 : ℤ) ≤ x.value :=
    hlow.trans (le_mul_of_one_le_left hpos.le hone)
  have hle : x.value ≤ 10 ^ 9 * 10 ^ (40 : ℤ) :=
    mul_le_mul hdigits hhigh hpos.le (by norm_num)
  have hbinade : (Format.double.binade : ℚ) = 2 ^ 52 := by norm_num [Format.binade, Format.double]
  have hdepth : Format.double.depth = 1074 := rfl
  have hbits : Format.double.fractionBits = 52 := rfl
  rw [hbinade, hdepth, hbits]
  constructor
  · calc (2 : ℚ) ^ 52
      _ ≤ 10 ^ (-60 : ℤ) * 2 ^ 252 := by norm_num
      _ ≤ 10 ^ (-60 : ℤ) * 2 ^ 1074 :=
          mul_le_mul_of_nonneg_left (pow_le_pow_right₀ (by norm_num) (by norm_num)) (by positivity)
      _ ≤ x.value * 2 ^ 1074 := mul_le_mul_of_nonneg_right hge (by norm_num)
  · calc x.value * 2 ^ 1074
      _ ≤ 10 ^ 9 * 10 ^ (40 : ℤ) * 2 ^ 1074 := mul_le_mul_of_nonneg_right hle (by norm_num)
      _ < 2 ^ 163 * 2 ^ 1074 := mul_lt_mul_of_pos_right (by norm_num) (by positivity)
      _ = 2 ^ (52 + 1 + 1184) := by rw [← pow_add]

/-- The relative error when a decimal with few digits is rounded to a long number. -/
theorem Short.error_double (h : x.Short) :
    2 ^ 53 * (Format.double.units (x.magnitude .double) : ℚ) ≤
        (2 ^ 53 + 1) * (x.value * 2 ^ 1074) ∧
      (2 ^ 53 - 1) * (x.value * 2 ^ 1074) ≤
        2 ^ 53 * (Format.double.units (x.magnitude .double) : ℚ) := by
  obtain ⟨hnormal, hhigh⟩ := h.bounds_double
  have hbinade : (Format.double.binade : ℚ) = 2 ^ 52 := by norm_num [Format.binade, Format.double]
  have herror := magnitude_error h.inReach hnormal hhigh (by decide)
  rw [hbinade] at herror
  norm_num at herror ⊢
  exact herror

theorem Short.magnitude_double_lt (h : x.Short) : x.magnitude .double < Format.double.infinity :=
  magnitude_lt_infinity h.inReach h.bounds_double.2 (by decide)

theorem Short.magnitude_double_pos (h : x.Short) : 0 < x.magnitude .double := by
  obtain ⟨-, hge⟩ := h.error_double
  rw [Nat.pos_iff_ne_zero]
  intro hzero
  have hunits : Format.double.units 0 = 0 := Format.units_of_lt Format.binade_pos
  have hscale : (0 : ℚ) < x.value * 2 ^ 1074 := mul_pos h.value_pos (by positivity)
  rw [hzero, hunits, Nat.cast_zero, mul_zero] at hge
  generalize x.value * (2 : ℚ) ^ 1074 = v at *
  linarith

theorem value_eq_of_le (hx : x.Short) (hy : y.Short) (hle : x.exponent ≤ y.exponent)
    (h : x.magnitude .double = y.magnitude .double) : x.value = y.value := by
  obtain ⟨k, hk⟩ := Int.le.dest hle
  have hpow : (0 : ℚ) < 10 ^ x.exponent := zpow_pos (by norm_num) _
  -- both are multiples of the smaller power of ten
  have hvalue : y.value = (y.digits * 10 ^ k : Nat) * (10 : ℚ) ^ x.exponent := by
    rw [value, ← hk, zpow_add₀ (by norm_num), zpow_natCast]
    push_cast
    ring
  obtain ⟨hxle, hxge⟩ := hx.error_double
  obtain ⟨hyle, hyge⟩ := hy.error_double
  rw [h] at hxle hxge
  have hscale : (0 : ℚ) < 10 ^ x.exponent * 2 ^ 1074 := mul_pos hpow (by positivity)
  generalize (2 : ℚ) ^ 1074 = c at *
  have hxy : (2 ^ 53 - 1) * (x.digits : ℚ) ≤ (2 ^ 53 + 1) * (y.digits * 10 ^ k : Nat) := by
    refine le_of_mul_le_mul_right ?_ hscale
    have hmid := hxge.trans hyle
    rw [hvalue, value] at hmid
    linarith [hmid]
  have hyx : (2 ^ 53 - 1) * ((y.digits * 10 ^ k : Nat) : ℚ) ≤ (2 ^ 53 + 1) * x.digits := by
    refine le_of_mul_le_mul_right ?_ hscale
    have hmid := hyge.trans hxle
    rw [hvalue, value] at hmid
    linarith [hmid]
  generalize y.digits * 10 ^ k = b at *
  have hdigits := hx.digits_le
  have hcast : ((2 ^ 53 - 1 : Nat) : ℚ) = 2 ^ 53 - 1 := by norm_num
  rw [← hcast] at hxy hyx
  -- the digits are too few for a relative error of this size
  have heq : x.digits = b := by
    have hxy' : (2 ^ 53 - 1) * x.digits ≤ (2 ^ 53 + 1) * b := by exact_mod_cast hxy
    have hyx' : (2 ^ 53 - 1) * b ≤ (2 ^ 53 + 1) * x.digits := by exact_mod_cast hyx
    omega
  rw [hvalue, value, heq]

/-- Decimals with few digits that are rounded to the same long number are the same number. -/
theorem value_eq_of_magnitude_eq (hx : x.Short) (hy : y.Short)
    (h : x.magnitude .double = y.magnitude .double) : x.value = y.value := by
  rcases le_total x.exponent y.exponent with hle | hle
  · exact value_eq_of_le hx hy hle h
  · exact (value_eq_of_le hy hx hle h.symm).symm

end

/-! ## Grids -/

section

variable {f : Format} {m c : Nat}

/-- The value of a magnitude. -/
def exactValue (f : Format) (m : Nat) : ℚ := f.units m / 2 ^ f.depth

/-- The largest decimal with `c` digits that is not above the value of the magnitude. -/
def below (f : Format) (m c : Nat) : Decimal :=
  let exponent := leading f (f.units m) - c + 1
  let n := if 0 ≤ exponent then f.units m else f.units m * Nat.pow 10 (-exponent).toNat
  let d := if 0 ≤ exponent then Nat.pow 2 f.depth * Nat.pow 10 exponent.toNat
    else Nat.pow 2 f.depth
  ⟨n / d, exponent⟩

/-- The next decimal behind it. -/
def above (f : Format) (m c : Nat) : Decimal := ⟨(below f m c).digits + 1, (below f m c).exponent⟩

/-- The decimal on a grid is one of the two, if it reads back. -/
theorem onGrid?_eq (tie : Tie) : ∃ (prefersAbove : Prop) (_ : Decidable prefersAbove),
    onGrid? f tie m c =
      match decide ((below f m c).magnitude f = m), decide ((above f m c).magnitude f = m) with
      | true, true => some (if prefersAbove then above f m c else below f m c)
      | true, false => some (below f m c)
      | false, true => some (above f m c)
      | false, false => none := ⟨_, _, rfl⟩

theorem eq_of_onGrid? {tie : Tie} {x : Decimal} (h : onGrid? f tie m c = some x) :
    x.magnitude f = m ∧ (x = below f m c ∨ x = above f m c) := by
  obtain ⟨p, _, hgrid⟩ := onGrid?_eq (f := f) (m := m) (c := c) tie
  rw [hgrid] at h
  cases hlow : decide ((below f m c).magnitude f = m) with
  | true =>
    cases hhigh : decide ((above f m c).magnitude f = m) with
    | true =>
      rw [hlow, hhigh] at h
      obtain rfl := Option.some.inj h
      by_cases hp : p
      · rw [if_pos hp]
        exact ⟨of_decide_eq_true hhigh, Or.inr rfl⟩
      · rw [if_neg hp]
        exact ⟨of_decide_eq_true hlow, Or.inl rfl⟩
    | false =>
      rw [hlow, hhigh] at h
      obtain rfl := Option.some.inj h
      exact ⟨of_decide_eq_true hlow, Or.inl rfl⟩
  | false =>
    cases hhigh : decide ((above f m c).magnitude f = m) with
    | true =>
      rw [hlow, hhigh] at h
      obtain rfl := Option.some.inj h
      exact ⟨of_decide_eq_true hhigh, Or.inr rfl⟩
    | false =>
      rw [hlow, hhigh] at h
      cases h

theorem isSome_onGrid? {tie : Tie} (h : (below f m c).magnitude f = m) :
    (onGrid? f tie m c).isSome = true := by
  obtain ⟨p, _, hgrid⟩ := onGrid?_eq (f := f) (m := m) (c := c) tie
  rw [hgrid, decide_eq_true h]
  cases decide ((above f m c).magnitude f = m) <;> rfl

/-- The power of ten of the leading digit. -/
theorem leading_spec (hm : 0 < f.units m) :
    (10 : ℚ) ^ leading f (f.units m) ≤ exactValue f m ∧
      exactValue f m < 10 ^ (leading f (f.units m) + 1) := by
  rw [exactValue, leading]
  simp only [Nat.pow_eq]
  generalize f.units m = u at *
  have hpos : 0 < 2 ^ f.depth := Nat.two_pow_pos _
  -- the digits before the point, after the point was moved far to the right
  generalize hW : u * 10 ^ f.depth / 2 ^ f.depth = W
  have hW0 : 0 < W := by
    rw [← hW]
    refine Nat.div_pos ?_ hpos
    calc 2 ^ f.depth
      _ ≤ 10 ^ f.depth := Nat.pow_le_pow_left (by decide) _
      _ ≤ u * 10 ^ f.depth := Nat.le_mul_of_pos_left _ hm
  have hle : W * 2 ^ f.depth ≤ u * 10 ^ f.depth := by
    rw [← hW]
    exact Nat.div_mul_le_self _ _
  have hlt : u * 10 ^ f.depth < (W + 1) * 2 ^ f.depth := by
    refine (Nat.div_lt_iff_lt_mul hpos).mp ?_
    omega
  obtain ⟨w, hw⟩ := Nat.exists_eq_add_of_le' (width_pos W)
  have hlow := pow_width_le hW0
  have hhigh := lt_pow_width W
  rw [hw] at hlow hhigh
  have hlow' : (10 : ℚ) ^ w * 2 ^ f.depth ≤ u * 10 ^ f.depth := by
    have hmul := (Nat.mul_le_mul_right (2 ^ f.depth) hlow).trans hle
    exact_mod_cast hmul
  have hhigh' : (u : ℚ) * 10 ^ f.depth < 10 ^ (w + 1) * 2 ^ f.depth := by
    have hmul := lt_of_lt_of_le hlt (Nat.mul_le_mul_right (2 ^ f.depth) hhigh)
    exact_mod_cast hmul
  have hten : (0 : ℚ) < 10 ^ f.depth := by positivity
  have htwo : (0 : ℚ) < 2 ^ f.depth := by positivity
  have hexp : ((w + 1 : Nat) : ℤ) - 1 - f.depth = (w : ℤ) - f.depth := by
    push_cast
    ring
  have hexp' : (w : ℤ) - f.depth + 1 = ((w + 1 : Nat) : ℤ) - f.depth := by
    push_cast
    ring
  rw [hw, hexp, hexp', zpow_sub₀ (by norm_num), zpow_sub₀ (by norm_num), zpow_natCast,
    zpow_natCast, zpow_natCast]
  constructor
  · rw [div_le_div_iff₀ hten htwo]
    exact hlow'
  · rw [div_lt_div_iff₀ htwo hten]
    exact hhigh'

theorem below_spec :
    (below f m c).value ≤ exactValue f m ∧
      exactValue f m < (below f m c).value + 10 ^ (below f m c).exponent := by
  generalize he : (below f m c).exponent = e
  have hpow : (0 : ℚ) < 10 ^ e := zpow_pos (by norm_num) _
  -- the digits are a quotient rounded down
  obtain ⟨n, d, hdigits, hquotient⟩ : ∃ n d : Nat, (below f m c).digits = n / d ∧
      (n : ℚ) / d = exactValue f m / 10 ^ e := by
    rcases lt_or_ge e 0 with hneg | hpos
    · obtain ⟨k, hk⟩ := Int.exists_eq_neg_ofNat hneg.le
      refine ⟨f.units m * 10 ^ k, 2 ^ f.depth, ?_, ?_⟩
      · have hexp : leading f (f.units m) - c + 1 = -(k : ℤ) := he.trans hk
        have hneg' : ¬ (0 : ℤ) ≤ -(k : ℤ) := by omega
        simp only [below, hexp, if_neg hneg', neg_neg, Int.toNat_natCast, Nat.pow_eq]
      · rw [exactValue, hk, zpow_neg, zpow_natCast]
        push_cast
        field_simp
    · obtain ⟨k, hk⟩ := Int.eq_ofNat_of_zero_le hpos
      refine ⟨f.units m, 2 ^ f.depth * 10 ^ k, ?_, ?_⟩
      · have hexp : leading f (f.units m) - c + 1 = (k : ℤ) := he.trans hk
        have hpos' : (0 : ℤ) ≤ (k : ℤ) := by omega
        simp only [below, hexp, if_pos hpos', Int.toNat_natCast, Nat.pow_eq]
      · rw [exactValue, hk, zpow_natCast]
        push_cast
        field_simp
  have hle : ((n / d : Nat) : ℚ) ≤ exactValue f m / 10 ^ e := by
    rw [← hquotient]
    exact Nat.cast_div_le
  have hlt : exactValue f m / 10 ^ e < ((n / d : Nat) : ℚ) + 1 := by
    rw [← hquotient, ← Nat.floor_div_eq_div (K := ℚ)]
    exact Nat.lt_floor_add_one _
  rw [value, he, hdigits]
  constructor
  · exact (le_div_iff₀ hpow).mp hle
  · have hmul := (div_lt_iff₀ hpow).mp hlt
    linarith [hmul]

theorem digits_below (hm : 0 < f.units m) (hc : 0 < c) :
    0 < (below f m c).digits ∧ (below f m c).digits < 10 ^ c := by
  obtain ⟨hle, hlt⟩ := below_spec (f := f) (m := m) (c := c)
  obtain ⟨hlow, hhigh⟩ := leading_spec hm
  have hexp : (below f m c).exponent = leading f (f.units m) - c + 1 := rfl
  have hpow : (0 : ℚ) < 10 ^ (below f m c).exponent := zpow_pos (by norm_num) _
  constructor
  · have hstep : (10 : ℚ) ^ (below f m c).exponent ≤ 10 ^ leading f (f.units m) :=
      zpow_le_zpow_right₀ (by norm_num) (by omega)
    have hpos : 0 < (below f m c).value := by linarith
    rw [Nat.pos_iff_ne_zero]
    intro hzero
    rw [value, hzero, Nat.cast_zero, zero_mul] at hpos
    exact lt_irrefl _ hpos
  · have hbound : (below f m c).value < 10 ^ c * 10 ^ (below f m c).exponent := by
      have hsum : (c : ℤ) + (below f m c).exponent = leading f (f.units m) + 1 := by omega
      rw [← zpow_natCast, ← zpow_add₀ (by norm_num), hsum]
      exact lt_of_le_of_lt hle hhigh
    have hdigits := lt_of_mul_lt_mul_right hbound hpow.le
    exact_mod_cast hdigits

end

/-! ## Grids of short numbers -/

section

variable {m c : Nat}

theorem units_single_le (hm : 0 < m) (hfinite : m < Format.single.infinity) :
    Format.single.units m ≤ 2 ^ 128 * 2 ^ 149 := by
  obtain ⟨t, k, hmk, -, hk, hbin, hunits, -⟩ := Format.exists_step (f := .single) hm
  have hbinade : Format.single.binade = 2 ^ 23 := rfl
  have hinfinity : Format.single.infinity = 255 * 2 ^ 23 := rfl
  rw [hbinade] at hmk hk hbin
  rw [hinfinity] at hfinite
  have ht : t ≤ 253 := by
    rcases hbin with rfl | hbin
    · omega
    · omega
  rw [hunits]
  calc k * 2 ^ t
    _ ≤ 2 * 2 ^ 23 * 2 ^ 253 := Nat.mul_le_mul hk (Nat.pow_le_pow_right (by decide) ht)
    _ = 2 ^ 128 * 2 ^ 149 := by norm_num

theorem leading_single (hm : 0 < m) (hfinite : m < Format.single.infinity) :
    -45 ≤ leading .single (Format.single.units m) ∧
      leading .single (Format.single.units m) ≤ 38 := by
  have hunits : 0 < Format.single.units m := Format.units_pos hm
  obtain ⟨hlow, hhigh⟩ := leading_spec hunits
  have hdepth : Format.single.depth = 149 := rfl
  have hone : (1 : ℚ) ≤ Format.single.units m := by exact_mod_cast hunits
  have hle : (Format.single.units m : ℚ) ≤ 2 ^ 128 * 2 ^ 149 := by
    exact_mod_cast units_single_le hm hfinite
  rw [exactValue, hdepth] at hlow hhigh
  constructor
  · have hpow : (10 : ℚ) ^ (-45 : ℤ) < 10 ^ (leading .single (Format.single.units m) + 1) := by
      refine lt_of_le_of_lt ?_ hhigh
      calc (10 : ℚ) ^ (-45 : ℤ)
        _ ≤ 1 / 2 ^ 149 := by norm_num
        _ ≤ Format.single.units m / 2 ^ 149 := by gcongr
    have hlt := (zpow_lt_zpow_iff_right₀ (by norm_num)).mp hpow
    omega
  · have hpow : (10 : ℚ) ^ leading .single (Format.single.units m) < 10 ^ (39 : ℤ) := by
      refine lt_of_le_of_lt hlow ?_
      calc (Format.single.units m : ℚ) / 2 ^ 149
        _ ≤ 2 ^ 128 := (div_le_iff₀ (by positivity)).mpr hle
        _ < 10 ^ (39 : ℤ) := by norm_num
    have hlt := (zpow_lt_zpow_iff_right₀ (by norm_num)).mp hpow
    omega

theorem short_below (hm : 0 < m) (hfinite : m < Format.single.infinity) (hc : 0 < c)
    (hc' : c ≤ 9) : (below .single m c).Short ∧ (above .single m c).Short := by
  have hunits : 0 < Format.single.units m := Format.units_pos hm
  obtain ⟨hpos, hlt⟩ := digits_below hunits hc
  obtain ⟨hlow, hhigh⟩ := leading_single hm hfinite
  have hpow : 10 ^ c ≤ 10 ^ 9 := Nat.pow_le_pow_right (by decide) hc'
  have hexp : (below .single m c).exponent = leading .single (Format.single.units m) - c + 1 := rfl
  have hge : -60 ≤ (below .single m c).exponent := by omega
  have hle : (below .single m c).exponent ≤ 40 := by omega
  refine ⟨⟨hpos, by omega, hge, hle⟩, ⟨Nat.succ_pos _, ?_, hge, hle⟩⟩
  simp only [above]
  omega

/-- Nine digits are enough: the decimal below a short number is nearer to it than half the gap to
its neighbours. -/
theorem magnitude_below_nine (hm : 0 < m) (hfinite : m < Format.single.infinity) :
    (below .single m 9).magnitude .single = m := by
  have hunits : 0 < Format.single.units m := Format.units_pos hm
  obtain ⟨hle, hlt⟩ := below_spec (f := .single) (m := m) (c := 9)
  obtain ⟨hlead, -⟩ := leading_spec hunits
  have hexp : (below .single m 9).exponent =
      leading .single (Format.single.units m) + (-8 : ℤ) := by
    simp only [below]
    push_cast
    ring
  have hstep : (10 : ℚ) ^ (below .single m 9).exponent ≤ exactValue .single m / 10 ^ 8 := by
    rw [hexp, zpow_add₀ (by norm_num), div_eq_mul_inv]
    refine mul_le_mul hlead ?_ (by positivity) (le_trans (by positivity) hlead)
    norm_num
  have hgap : (Format.single.units m : ℚ) + 2 ^ 24 * Format.single.units (m - 1) ≤
      2 ^ 24 * Format.single.units m := by
    have hnat := Format.units_le_gap (f := .single) hm
    have hbinade : 2 * Format.single.binade = 2 ^ 24 := rfl
    rw [hbinade] at hnat
    exact_mod_cast hnat
  have hsucc : (Format.single.units m : ℚ) < Format.single.units (m + 1) := by
    exact_mod_cast Format.units_pred_lt (f := .single) (Nat.succ_pos m)
  have hpow : (0 : ℚ) < 2 ^ Format.single.depth := by positivity
  have hscale : exactValue .single m * 2 ^ Format.single.depth = Format.single.units m :=
    div_mul_cancel₀ _ hpow.ne'
  have hpos : (0 : ℚ) < Format.single.units m := by exact_mod_cast hunits
  refine magnitude_eq_of_near (short_below hm hfinite (by decide) le_rfl).1.inReach hfinite ?_ ?_
  · have hnear : (Format.single.units m : ℚ) * (1 - 1 / 10 ^ 8) <
        (below .single m 9).value * 2 ^ Format.single.depth := by
      rw [← hscale]
      have hmul := mul_lt_mul_of_pos_right (lt_of_lt_of_le hlt (add_le_add le_rfl hstep)) hpow
      linarith [hmul]
    linarith [hnear, hgap, hpos]
  · have hmul := mul_le_mul_of_nonneg_right hle hpow.le
    rw [hscale] at hmul
    linarith [hmul, hsucc]

/-- The shortest decimal of a short number is next to it on a grid of at most nine digits, and reads
back. -/
theorem exists_grid_shortest (tie : Tie) (hm : 0 < m) (hfinite : m < Format.single.infinity) :
    ∃ c, 0 < c ∧ c ≤ 9 ∧ (shortest .single tie m).magnitude .single = m ∧
      (shortest .single tie m = below .single m c ∨
        shortest .single tie m = above .single m c) := by
  have hsplit : List.range 17 = List.range 9 ++ [9, 10, 11, 12, 13, 14, 15, 16] := by decide
  have hsome : ((List.range 9).findSome? fun k => onGrid? .single tie m (k + 1)).isSome = true := by
    rw [List.findSome?_isSome_iff]
    exact ⟨8, by decide, isSome_onGrid? (magnitude_below_nine hm hfinite)⟩
  obtain ⟨x, hx⟩ := Option.isSome_iff_exists.mp hsome
  have hshortest : shortest .single tie m = x := by
    rw [shortest, hsplit, List.findSome?_append, hx]
    rfl
  obtain ⟨k, hk, hgrid⟩ := List.exists_of_findSome?_eq_some hx
  have hk' : k < 9 := List.mem_range.mp hk
  rw [hshortest]
  exact ⟨k + 1, Nat.succ_pos k, hk', eq_of_onGrid? hgrid⟩

/-- The shortest decimal of a short number has few digits, and reads back. -/
theorem shortest_spec (tie : Tie) (hm : 0 < m) (hfinite : m < Format.single.infinity) :
    (shortest .single tie m).Short ∧ (shortest .single tie m).magnitude .single = m := by
  obtain ⟨c, hc, hc', hmag, hgrid⟩ := exists_grid_shortest tie hm hfinite
  obtain ⟨hbelow, habove⟩ := short_below hm hfinite hc hc'
  refine ⟨?_, hmag⟩
  rcases hgrid with h | h
  · rw [h]
    exact hbelow
  · rw [h]
    exact habove

end

end Decimal

/-! ## Spelling a short number as a long one -/

attribute [ext] Binary

/-- A finite short number is known from the long number that its digits spell. -/
theorem Binary.respelled_inj {x y : Single} (hx : x.isFinite = true) (hy : y.isFinite = true)
    (h : x.respelled = y.respelled) : x = y := by
  have hspelled : ∀ z : Single, z.isFinite = true → z.magnitude ≠ 0 →
      (Decimal.shortest .single .up z.magnitude).Short ∧
        (Decimal.shortest .single .up z.magnitude).magnitude .single = z.magnitude := by
    intro z hz hne
    exact Decimal.shortest_spec .up (Nat.pos_of_ne_zero hne) (of_decide_eq_true hz)
  have hzero : ∀ z : Single, z.magnitude = 0 → z.respelled = ⟨z.negative, 0⟩ := by
    intro z hz
    rw [Binary.respelled, if_pos hz]
  have hdigits : ∀ z : Single, z.magnitude ≠ 0 → z.respelled =
      ⟨z.negative, (Decimal.shortest .single .up z.magnitude).magnitude .double⟩ := by
    intro z hz
    rw [Binary.respelled, if_neg hz]
  suffices hparts : x.negative = y.negative ∧ x.magnitude = y.magnitude from
    Binary.ext hparts.1 hparts.2
  by_cases hxm : x.magnitude = 0 <;> by_cases hym : y.magnitude = 0
  · rw [hzero x hxm, hzero y hym] at h
    exact ⟨(Binary.mk.inj h).1, hxm.trans hym.symm⟩
  · rw [hzero x hxm, hdigits y hym] at h
    have hpos := (hspelled y hy hym).1.magnitude_double_pos
    exact absurd (Binary.mk.inj h).2 hpos.ne
  · rw [hdigits x hxm, hzero y hym] at h
    have hpos := (hspelled x hx hxm).1.magnitude_double_pos
    exact absurd (Binary.mk.inj h).2 hpos.ne'
  · rw [hdigits x hxm, hdigits y hym] at h
    obtain ⟨hsign, hmag⟩ := Binary.mk.inj h
    obtain ⟨hxs, hxback⟩ := hspelled x hx hxm
    obtain ⟨hys, hyback⟩ := hspelled y hy hym
    refine ⟨hsign, ?_⟩
    rw [← hxback, ← hyback]
    exact Decimal.magnitude_congr hxs.inReach hys.inReach
      (Decimal.value_eq_of_magnitude_eq hxs hys hmag)

end Plotline.Numeral
