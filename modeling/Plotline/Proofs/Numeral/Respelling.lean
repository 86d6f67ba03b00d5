import Plotline.Proofs.Numeral.Neighbours
import Plotline.Proofs.Numeral.Shortest

/-!
# Spelling a short number as a long one and back

The digits of a short number spell a long number, which is rounded to the short format when it is
read. This gives the number back if the long number is between the middles of the two gaps around
it. If it is not, the digits themselves are next to one of the middles
(`Decimal.exists_middle_of_ne`).

A middle is `(2 * k - 1) * 2 ^ t` with few binary digits, and the step of the grid of decimals is not
much smaller than that of the short numbers there. So digits next to a middle make a fraction with
a small numerator that is next to the ratio of a power of ten and a power of two. For every power
of ten that matters, the neighbours of this ratio leave only three such fractions
(`Decimal.eq_or_nearMiss`), and digits on a middle spell the middle itself. So the only exceptions
are `7.038531e-26` and its negative (`Binary.convert_respelled_iff`).
-/

namespace Plotline.Numeral

namespace Decimal

/-! ## Powers of ten and of two -/

/-- The exponent of the largest power of two that is not above `10 ^ e`. -/
def twoBelow : ℤ → ℤ
  | .ofNat n => (10 ^ n).log2
  | .negSucc n => -((10 ^ (n + 1)).log2 + 1 : Nat)

/-- The ratio of `10 ^ e` to that power of two. -/
def tenRatio : ℤ → Nat × Nat
  | .ofNat n => (5 ^ n, 2 ^ ((10 ^ n).log2 - n))
  | .negSucc n => (2 ^ ((10 ^ (n + 1)).log2 + 1 - (n + 1)), 5 ^ (n + 1))

theorem le_log2_ten_pow (n : Nat) : n ≤ (10 ^ n).log2 :=
  (Nat.le_log2 (Nat.pow_pos (by decide)).ne').mpr (Nat.pow_le_pow_left (by decide) n)

theorem tenRatio_spec (e : ℤ) :
    (10 : ℚ) ^ e * (tenRatio e).2 = (tenRatio e).1 * 2 ^ twoBelow e := by
  have hten : ∀ n : Nat, (10 : ℚ) ^ n = 5 ^ n * 2 ^ n := fun n => by rw [← mul_pow]; norm_num
  cases e with
  | ofNat n =>
    obtain ⟨s, hs⟩ := Nat.exists_eq_add_of_le (le_log2_ten_pow n)
    simp only [tenRatio, twoBelow, Int.ofNat_eq_natCast, zpow_natCast, hs, Nat.add_sub_cancel_left]
    push_cast
    rw [hten, pow_add]
    ring
  | negSucc n =>
    obtain ⟨s, hs⟩ := Nat.exists_eq_add_of_le (le_log2_ten_pow (n + 1))
    have hsub : n + 1 + s + 1 - (n + 1) = s + 1 := by omega
    simp only [tenRatio, twoBelow, zpow_negSucc, hs, hsub, zpow_neg, zpow_natCast]
    push_cast
    rw [hten, show n + 1 + s + 1 = (s + 1) + (n + 1) by omega, pow_add 2 (s + 1)]
    field_simp

theorem tenRatio_pos (e : ℤ) : 0 < (tenRatio e).1 ∧ 0 < (tenRatio e).2 := by
  cases e with
  | ofNat n => exact ⟨Nat.pow_pos (by decide), Nat.pow_pos (by decide)⟩
  | negSucc n => exact ⟨Nat.pow_pos (by decide), Nat.pow_pos (by decide)⟩

/-! ## Near misses -/

/-- Numbers `den` and exponents `e` such that `den * 10 ^ e` is next to a number with less than 26
binary digits, but is not that number. -/
def nearMisses : List (Nat × ℤ) := [(14077062, -32), (25645849, -15), (22841339, 32)]

/-- Fractions are near the ratio `a / b` if the distance, scaled by both denominators, is below
this. -/
def nearGap (b : Nat) : Nat := b / 2 ^ 28 + 1

/-- Neighbours of the ratio of a power of ten. -/
def tenNeighbours (e : ℤ) : Neighbours :=
  .narrow (tenRatio e).1 (tenRatio e).2 (2 ^ 25) 1000 .widest

/-- The ratio is not next to two, and unless it has a small denominator, its neighbours have large
numerators, and the only ones near it are near misses. -/
def Separated (e : ℤ) : Prop :=
  let a := (tenRatio e).1
  let b := (tenRatio e).2
  let c := tenNeighbours e
  a * 2 ^ 27 < b * (2 ^ 28 - 2) ∧
    (b < 2 ^ 28 ∨ 2 ^ 25 ≤ c.lowNum + c.highNum ∧
      (nearGap b ≤ c.lowGap a b ∨ nearGap b ≤ c.highGap a b) ∧
      (c.lowGap a b < nearGap b → 2 ^ 24 ≤ c.lowNum ∧ (c.lowDen, e) ∈ nearMisses) ∧
      (c.highGap a b < nearGap b → 2 ^ 24 ≤ c.highNum ∧ (c.highDen, e) ∈ nearMisses))

instance (e : ℤ) : Decidable (Separated e) := inferInstanceAs (Decidable (_ ∧ _))

theorem separated {e : ℤ} (hlow : -45 ≤ e) (hhigh : e ≤ 38) : Separated e := by
  have htable : ∀ i : Nat, i < 84 → Separated ((i : ℤ) - 45) := by
    decide +kernel
  have he := htable (e + 45).toNat (by omega)
  rwa [Int.toNat_of_nonneg (by omega), add_sub_cancel_right] at he

section

variable {e : ℤ} {num den : Nat}

theorem eq_or_nearMiss (h : Separated e) (hpos : 0 < num) (hsmall : num < 2 ^ 25)
    (hbelow : den * (tenRatio e).1 < num * (tenRatio e).2 + nearGap (tenRatio e).2)
    (habove : num * (tenRatio e).2 < den * (tenRatio e).1 + nearGap (tenRatio e).2) :
    den * (tenRatio e).1 = num * (tenRatio e).2 ∨ (den, e) ∈ nearMisses := by
  obtain ⟨-, hb | ⟨hlarge, hfar, hlow, hhigh⟩⟩ := h
  · -- the distance is a whole number below one
    left
    have hgap : nearGap (tenRatio e).2 = 1 := by
      rw [nearGap, Nat.div_eq_of_lt hb]
    omega
  · right
    have haround : (tenNeighbours e).Around (tenRatio e).1 (tenRatio e).2 :=
      Neighbours.around_widest.narrow
    have hone : ∀ {k n : Nat}, num = k * n → 2 ^ 24 ≤ n → k = 1 := by
      intro k n hk hn
      have hk0 : k ≠ 0 := by
        rintro rfl
        omega
      by_contra hne
      have hmul : 2 * 2 ^ 24 ≤ k * n := Nat.mul_le_mul (by omega) hn
      omega
    rcases haround.eq_multiple hpos (by omega) hfar hbelow habove with
      ⟨k, hnum, hden, hgap⟩ | ⟨k, hnum, hden, hgap⟩
    · obtain ⟨hn, hmem⟩ := hlow hgap
      rw [hden, hone hnum hn, Nat.one_mul]
      exact hmem
    · obtain ⟨hn, hmem⟩ := hhigh hgap
      rw [hden, hone hnum hn, Nat.one_mul]
      exact hmem

end

/-! ## Digits next to a middle -/

/-- The short magnitude that is read from the long number that a decimal spells. -/
def reread (x : Decimal) : Nat :=
  Format.single.nearest (Format.double.units (x.magnitude .double)) (2 ^ Format.double.depth)

/-- The sum of two magnitudes in a row is a power of two times a number with few binary digits, and
half a step from twice each of them. -/
theorem exists_middle {m m' : Nat} (hm : 0 < m) (h : m' = m ∨ m' = m + 1) :
    ∃ t num, 0 < num ∧ num < 2 ^ 25 ∧
      Format.single.units (m' - 1) + Format.single.units m' = num * 2 ^ t ∧
      (2 * Format.single.units m = num * 2 ^ t + 2 ^ t ∨
        2 * Format.single.units m + 2 ^ t = num * 2 ^ t) := by
  have hm' : 0 < m' := by omega
  obtain ⟨t, k, -, hk, hle, -, hunits, hpred⟩ := Format.exists_step (f := .single) hm'
  have hbinade : 2 * Format.single.binade = 2 ^ 24 := rfl
  rw [hbinade] at hle
  obtain ⟨j, rfl⟩ := Nat.exists_eq_add_of_le' hk
  rw [Nat.add_sub_cancel] at hpred
  refine ⟨t, 2 * j + 1, by omega, by omega, ?_, ?_⟩
  · rw [hunits, hpred]
    ring
  · rcases h with rfl | rfl
    · left
      rw [hunits]
      ring
    · right
      rw [Nat.add_sub_cancel] at hpred
      rw [hpred]
      ring

section

variable {x : Decimal} {m t num : Nat}

/-- The decimal is next to half of `num * 2 ^ t`, in steps of the smallest short number. -/
structure NextTo (x : Decimal) (num t : Nat) : Prop where
  above : 2 ^ 53 * (num * 2 ^ t : ℚ) ≤ (2 ^ 53 + 1) * (x.value * 2 ^ 150)
  below : (2 ^ 53 - 1) * (x.value * 2 ^ 150) ≤ 2 ^ 53 * (num * 2 ^ t : ℚ)

theorem reread_eq_of_near (hfinite : m < Format.single.infinity)
    (hlow : (Format.single.units (m - 1) + Format.single.units m : ℚ) * 2 ^ 1074 <
      2 * (Format.double.units (x.magnitude .double) * 2 ^ 149))
    (hhigh : 2 * (Format.double.units (x.magnitude .double) * 2 ^ 149 : ℚ) <
      (Format.single.units m + Format.single.units (m + 1)) * 2 ^ 1074) :
    x.reread = m := by
  have hdepth : Format.single.depth = 149 := rfl
  have hdepth' : Format.double.depth = 1074 := rfl
  rw [reread, hdepth']
  refine Format.nearest_eq_of_near hfinite (fun _ => ?_) ?_
  · rw [hdepth]
    exact_mod_cast hlow
  · rw [hdepth]
    exact_mod_cast hhigh

/-- Unless a decimal is read as the same number both ways, it is next to a middle. -/
theorem exists_middle_of_ne (hx : x.Short) (hm : 0 < m) (hfinite : m < Format.single.infinity)
    (hmag : x.magnitude .single = m) (hne : x.reread ≠ m) :
    ∃ t num, 0 < num ∧ num < 2 ^ 25 ∧ x.NextTo num t ∧
      (2 * Format.single.units m = num * 2 ^ t + 2 ^ t ∨
        2 * Format.single.units m + 2 ^ t = num * 2 ^ t) := by
  have hdepth : Format.single.depth = 149 := rfl
  obtain ⟨hlow, hhigh⟩ := magnitude_bounds hx.inReach (hmag ▸ hfinite)
  rw [hmag, hdepth] at hlow hhigh
  obtain ⟨hle, hge⟩ := hx.error_double
  have hpos := hx.value_pos
  have hnear := reread_eq_of_near (x := x) hfinite
  have hc : (0 : ℚ) < 2 ^ 1074 := by positivity
  generalize (2 : ℚ) ^ 1074 = c at *
  generalize (Format.double.units (x.magnitude .double) : ℚ) = y at *
  by_cases hside : 2 * (y * 2 ^ 149) < (Format.single.units m + Format.single.units (m + 1)) * c
  · -- the long number is not above the middle below
    obtain ⟨t, num, hnum, hnum', hsum, hhalf⟩ := exists_middle hm (Or.inl rfl)
    have hsum' : (Format.single.units (m - 1) + Format.single.units m : ℚ) = num * 2 ^ t := by
      exact_mod_cast hsum
    have hnot := not_lt.mp fun h => hne (hnear h hside)
    rw [hsum'] at hlow hnot
    refine ⟨t, num, hnum, hnum', ⟨?_, ?_⟩, hhalf⟩
    · linarith
    · refine le_of_mul_le_mul_right ?_ hc
      linarith
  · -- the long number is not below the middle above
    obtain ⟨t, num, hnum, hnum', hsum, hhalf⟩ := exists_middle hm (Or.inr rfl)
    have hsum' : (Format.single.units m + Format.single.units (m + 1) : ℚ) = num * 2 ^ t := by
      exact_mod_cast hsum
    rw [hsum'] at hhigh hside
    refine ⟨t, num, hnum, hnum', ⟨?_, ?_⟩, hhalf⟩
    · refine le_of_mul_le_mul_right ?_ hc
      linarith
    · linarith

/-- The distance from a number to the next decimal of a grid is at most a step of the grid. If the
decimal is next to a middle, it is at least half a step of the numbers. -/
theorem NextTo.step_le (h : x.NextTo num t) (hnum : num < 2 ^ 25)
    (hhalf : 2 * Format.single.units m = num * 2 ^ t + 2 ^ t ∨
      2 * Format.single.units m + 2 ^ t = num * 2 ^ t)
    (hgrid : |x.value - exactValue .single m| ≤ 10 ^ x.exponent) :
    (2 ^ 28 - 1) * (2 : ℚ) ^ t ≤ 2 ^ 28 * (10 ^ x.exponent * 2 ^ 150) := by
  have hdepth : Format.single.depth = 149 := rfl
  obtain ⟨habove, hbelow⟩ := h
  have hexact : exactValue .single m * 2 ^ 150 = 2 * Format.single.units m := by
    rw [exactValue, hdepth]
    ring
  obtain ⟨hlow, hhigh⟩ := abs_le.mp hgrid
  have hnumle : (num : ℚ) * 2 ^ t ≤ (2 ^ 25 - 1) * 2 ^ t := by
    have hle : (num : ℚ) ≤ 2 ^ 25 - 1 := by
      have hsucc : (num : ℚ) + 1 ≤ 2 ^ 25 := by exact_mod_cast hnum
      linarith
    exact mul_le_mul_of_nonneg_right hle (by positivity)
  have hp : (0 : ℚ) < 2 ^ t := by positivity
  generalize (10 : ℚ) ^ x.exponent = g at *
  rcases hhalf with hhalf | hhalf
  · have hhalf' : 2 * (Format.single.units m : ℚ) = num * 2 ^ t + 2 ^ t := by exact_mod_cast hhalf
    rw [hhalf'] at hexact
    linarith
  · have hhalf' : 2 * (Format.single.units m : ℚ) + 2 ^ t = num * 2 ^ t := by exact_mod_cast hhalf
    linarith

/-- Where a step of the numbers is not much larger than one of the grid, the power of ten is not
below the power of two. -/
theorem exists_shift_of_step_le {e : ℤ} {t : Nat} (h : Separated e)
    (hstep : (2 ^ 28 - 1) * (2 : ℚ) ^ t ≤ 2 ^ 28 * (10 ^ e * 2 ^ 150)) :
    ∃ j : Nat, twoBelow e + 150 = t + j := by
  suffices hle : (t : ℤ) < twoBelow e + 151 from
    ⟨(twoBelow e + 150 - t).toNat, by omega⟩
  by_contra hge
  have hratio := tenRatio_spec e
  have hb : (0 : ℚ) < (tenRatio e).2 := by exact_mod_cast (tenRatio_pos e).2
  have hsmall : ((tenRatio e).1 : ℚ) * 2 ^ 27 < (tenRatio e).2 * (2 ^ 28 - 2) := by
    have hcast : ((2 ^ 28 - 2 : Nat) : ℚ) = 2 ^ 28 - 2 := by norm_num
    rw [← hcast]
    exact_mod_cast h.1
  have hpow : (2 : ℚ) ^ twoBelow e * 2 ^ 151 ≤ 2 ^ t := by
    rw [← zpow_natCast, ← zpow_natCast, ← zpow_add₀ (by norm_num)]
    exact zpow_le_zpow_right₀ (by norm_num) (by push_cast; omega)
  have hp : (0 : ℚ) < 2 ^ twoBelow e := zpow_pos (by norm_num) _
  generalize ((tenRatio e).1 : ℚ) = a at *
  generalize ((tenRatio e).2 : ℚ) = b at *
  generalize (2 : ℚ) ^ twoBelow e = p at *
  have hscaled := mul_le_mul_of_nonneg_right hstep hb.le
  have hlt := mul_lt_mul_of_pos_right hsmall hp
  have hle := mul_le_mul_of_nonneg_right hpow hb.le
  have heq : 10 ^ e * 2 ^ 150 * b = a * p * 2 ^ 150 := by
    rw [← hratio]
    ring
  have hpos : 0 < 2 ^ t * b := mul_pos (by positivity) hb
  linarith

theorem le_exponent_of_step_le {e : ℤ}
    (hstep : (2 ^ 28 - 1) * (2 : ℚ) ^ t ≤ 2 ^ 28 * (10 ^ e * 2 ^ 150)) : -45 ≤ e := by
  by_contra hlt
  have hten : (10 : ℚ) ^ e ≤ 10 ^ (-46 : ℤ) := zpow_le_zpow_right₀ (by norm_num) (by omega)
  have hone : (1 : ℚ) ≤ 2 ^ t := one_le_pow₀ (by norm_num)
  norm_num at hten hstep
  linarith

/-- The decimal as a fraction of the power of two. -/
theorem value_eq_ratio {j : Nat} (hj : twoBelow x.exponent + 150 = t + j) :
    x.value * 2 ^ 150 * (tenRatio x.exponent).2 =
      (x.digits * 2 ^ j * (tenRatio x.exponent).1 : Nat) * 2 ^ t := by
  have htwo : (2 : ℚ) ^ twoBelow x.exponent * 2 ^ 150 = 2 ^ t * 2 ^ j := by
    rw [← zpow_natCast, ← zpow_natCast, ← zpow_natCast, ← zpow_add₀ (by norm_num),
      ← zpow_add₀ (by norm_num)]
    exact congrArg _ hj
  calc x.value * 2 ^ 150 * (tenRatio x.exponent).2
    _ = x.digits * (10 ^ x.exponent * (tenRatio x.exponent).2) * 2 ^ 150 := by
        rw [value]
        ring
    _ = x.digits * (tenRatio x.exponent).1 * (2 ^ twoBelow x.exponent * 2 ^ 150) := by
        rw [tenRatio_spec]
        ring
    _ = (x.digits * 2 ^ j * (tenRatio x.exponent).1 : Nat) * 2 ^ t := by
        rw [htwo]
        push_cast
        ring

/-- The fraction of a decimal next to a middle is near the ratio of the powers. -/
theorem NextTo.near_ratio {j : Nat} (h : x.NextTo num t) (hnum : num < 2 ^ 25)
    (hj : twoBelow x.exponent + 150 = t + j) :
    x.digits * 2 ^ j * (tenRatio x.exponent).1 <
        num * (tenRatio x.exponent).2 + nearGap (tenRatio x.exponent).2 ∧
      num * (tenRatio x.exponent).2 <
        x.digits * 2 ^ j * (tenRatio x.exponent).1 + nearGap (tenRatio x.exponent).2 := by
  have hvalue := value_eq_ratio hj
  have hp : (0 : ℚ) < 2 ^ t := by positivity
  have hb : (0 : ℚ) < (tenRatio x.exponent).2 := by exact_mod_cast (tenRatio_pos x.exponent).2
  have hle : num * (tenRatio x.exponent).2 ≤ (2 ^ 25 - 1) * (tenRatio x.exponent).2 :=
    Nat.mul_le_mul_right _ (by omega)
  have hmiddle : (num : ℚ) * 2 ^ t * (tenRatio x.exponent).2 =
      (num * (tenRatio x.exponent).2 : Nat) * 2 ^ t := by
    push_cast
    ring
  generalize x.digits * 2 ^ j * (tenRatio x.exponent).1 = P at *
  generalize num * (tenRatio x.exponent).2 = Q at *
  have habove : 2 ^ 53 * Q ≤ (2 ^ 53 + 1) * P := by
    have hmul := mul_le_mul_of_nonneg_right h.above hb.le
    rw [mul_assoc, mul_assoc _ (x.value * 2 ^ 150), hmiddle, hvalue, ← mul_assoc,
      ← mul_assoc] at hmul
    exact_mod_cast le_of_mul_le_mul_right hmul hp
  have hbelow : (2 ^ 53 - 1) * P ≤ 2 ^ 53 * Q := by
    have hmul := mul_le_mul_of_nonneg_right h.below hb.le
    rw [mul_assoc, mul_assoc _ (num * 2 ^ t : ℚ), hmiddle, hvalue, ← mul_assoc,
      ← mul_assoc] at hmul
    have hcast : ((2 ^ 53 - 1 : Nat) : ℚ) = 2 ^ 53 - 1 := by norm_num
    have hle := le_of_mul_le_mul_right hmul hp
    rw [← hcast] at hle
    exact_mod_cast hle
  rw [nearGap]
  constructor <;> omega

/-- A decimal on a grid that is next to a middle is the middle, or a near miss. -/
theorem NextTo.eq_or_nearMiss (h : x.NextTo num t) (hpos : 0 < num) (hnum : num < 2 ^ 25)
    (hstep : (2 ^ 28 - 1) * (2 : ℚ) ^ t ≤ 2 ^ 28 * (10 ^ x.exponent * 2 ^ 150))
    (hexp : x.exponent ≤ 38) :
    x.value * 2 ^ 150 = num * 2 ^ t ∨ ∃ j, (x.digits * 2 ^ j, x.exponent) ∈ nearMisses := by
  have hsep := separated (le_exponent_of_step_le hstep) hexp
  obtain ⟨j, hj⟩ := exists_shift_of_step_le hsep hstep
  obtain ⟨hless, hmore⟩ := h.near_ratio hnum hj
  rcases Decimal.eq_or_nearMiss hsep hpos hnum hless hmore with heq | hmem
  · left
    have hb : ((tenRatio x.exponent).2 : ℚ) ≠ 0 := by exact_mod_cast (tenRatio_pos x.exponent).2.ne'
    refine mul_right_cancel₀ hb ?_
    rw [value_eq_ratio hj, heq]
    push_cast
    ring
  · exact Or.inr ⟨j, hmem⟩

/-! ## Digits on a middle -/

/-- A decimal that is a middle is a long number too. -/
theorem reread_eq_of_middle (hx : x.Short) (hpos : 0 < num) (hnum : num < 2 ^ 25)
    (h : x.value * 2 ^ 150 = num * 2 ^ t) : x.reread = x.magnitude .single := by
  have hdepth : Format.double.depth = 1074 := rfl
  have hbinade : Format.double.binade = 2 ^ 52 := rfl
  have hinfinity : Format.double.infinity = 2047 * 2 ^ 52 := rfl
  have hbits : Format.double.fractionBits = 52 := rfl
  have hscale : x.value * 2 ^ 1074 = num * 2 ^ (t + 924) := by
    rw [pow_add, ← mul_assoc, ← h, mul_assoc, ← pow_add]
  have ht : t + 924 < 52 + 1 + 1184 := by
    obtain ⟨-, hlt⟩ := hx.bounds_double
    rw [hdepth, hbits, hscale] at hlt
    have hone : (1 : ℚ) ≤ num := by exact_mod_cast hpos
    have hle : (2 : ℚ) ^ (t + 924) ≤ num * 2 ^ (t + 924) :=
      le_mul_of_one_le_left (by positivity) hone
    exact (pow_lt_pow_iff_right₀ one_lt_two).mp (hle.trans_lt hlt)
  obtain ⟨b, hb, hunits⟩ := Format.exists_units_eq (f := .double) (t := t + 924) hpos
    (by rw [hbinade]; omega) (show 52 ≤ t + 924 by omega)
  rw [hbinade] at hb
  have hmag : x.magnitude .double = b := by
    refine magnitude_eq_of_value_eq hx.inReach ?_ ?_
    · rw [hinfinity]
      omega
    · rw [hdepth, hscale, hunits]
      push_cast
      rfl
  obtain ⟨n, d, hd, hn, hsingle⟩ := exists_fraction hx.inReach
  rw [reread, hmag, hunits, hsingle]
  refine Format.nearest_congr (Nat.two_pow_pos _) hd ?_
  have hcross : (num : ℚ) * 2 ^ (t + 924) * d = n * 2 ^ Format.double.depth := by
    rw [← hscale, hn, hdepth, mul_right_comm]
  exact_mod_cast hcross

end

/-! ## Short numbers -/

/-- The digits of a short number that spell a long number nearer to another short number. -/
def unstable : Decimal := ⟨7038531, -32⟩

/-- Of the near misses that are read as another number, only one is made of the digits of a short
number. -/
theorem nearMisses_spec : ∀ p ∈ nearMisses, p.1 < 2 ^ 25 ∧ ∀ j < 25, 2 ^ j ∣ p.1 →
    let x : Decimal := ⟨p.1 / 2 ^ j, p.2⟩
    x.reread ≠ x.magnitude .single → x ≠ unstable →
      shortest .single .up (x.magnitude .single) ≠ x := by
  decide +kernel

theorem eq_unstable_of_nearMiss {x : Decimal} {j : Nat} (hpos : 0 < x.digits)
    (hmem : (x.digits * 2 ^ j, x.exponent) ∈ nearMisses) (hne : x.reread ≠ x.magnitude .single)
    (hshortest : shortest .single .up (x.magnitude .single) = x) : x = unstable := by
  obtain ⟨hlt, hspec⟩ := nearMisses_spec _ hmem
  have hj : j < 25 := by
    have hle : 2 ^ j ≤ x.digits * 2 ^ j := Nat.le_mul_of_pos_left _ hpos
    exact (Nat.pow_lt_pow_iff_right (by decide)).mp (hle.trans_lt hlt)
  have hx := hspec j hj (Nat.dvd_mul_left _ _)
  simp only [Nat.mul_div_cancel _ (Nat.two_pow_pos j)] at hx
  by_contra hother
  exact hx hne hother hshortest

section

variable {m : Nat}

/-- The digits of a short number are on a grid that is not coarse, at most a step from it. -/
theorem shortest_near (tie : Tie) (hm : 0 < m) (hfinite : m < Format.single.infinity) :
    |(shortest .single tie m).value - exactValue .single m| ≤
        10 ^ (shortest .single tie m).exponent ∧
      (shortest .single tie m).exponent ≤ 38 := by
  obtain ⟨c, hc, -, -, hgrid⟩ := exists_grid_shortest tie hm hfinite
  obtain ⟨hle, hlt⟩ := below_spec (f := .single) (m := m) (c := c)
  obtain ⟨-, hleading⟩ := leading_single hm hfinite
  have hexp : (below .single m c).exponent ≤ 38 := by
    have heq : (below .single m c).exponent =
        leading .single (Format.single.units m) - c + 1 := rfl
    omega
  rcases hgrid with h | h
  · rw [h]
    exact ⟨abs_le.mpr ⟨by linarith, by linarith⟩, hexp⟩
  · have hvalue : (above .single m c).value =
        (below .single m c).value + 10 ^ (below .single m c).exponent := by
      rw [value, value, above]
      push_cast
      ring
    have hexp' : (above .single m c).exponent = (below .single m c).exponent := rfl
    rw [h, hvalue, hexp']
    exact ⟨abs_le.mpr ⟨by linarith, by linarith⟩, hexp⟩

/-- The digits of a short number, spelled as a long number, are read as the short number again,
with one exception. -/
theorem reread_shortest_iff (hm : 0 < m) (hfinite : m < Format.single.infinity) :
    (shortest .single .up m).reread = m ↔ m ≠ unstable.magnitude .single := by
  constructor
  · rintro h rfl
    revert h
    decide +kernel
  · intro hstable
    by_contra hne
    obtain ⟨hshort, hmag⟩ := shortest_spec .up hm hfinite
    obtain ⟨hgrid, hexp⟩ := shortest_near .up hm hfinite
    obtain ⟨t, num, hpos, hnum, hnext, hhalf⟩ := exists_middle_of_ne hshort hm hfinite hmag hne
    rcases hnext.eq_or_nearMiss hpos hnum (hnext.step_le hnum hhalf hgrid) hexp with
      heq | ⟨j, hmem⟩
    · exact hne ((reread_eq_of_middle hshort hpos hnum heq).trans hmag)
    · have hunstable := eq_unstable_of_nearMiss hshort.pos hmem (by rwa [hmag]) (by rw [hmag])
      rw [hunstable] at hmag
      exact hstable hmag.symm

end

end Decimal

namespace Binary

/-- The number is neither `7.038531e-26` nor `-7.038531e-26`. -/
def Stable (x : Single) : Prop := x.magnitude ≠ Decimal.unstable.magnitude .single

instance (x : Single) : Decidable x.Stable := inferInstanceAs (Decidable (_ ≠ _))

/-- A finite short number is read back from the long number that its digits spell, with these two
exceptions. -/
theorem convert_respelled_iff {x : Single} (hx : x.isFinite = true) :
    x.respelled.convert = x ↔ x.Stable := by
  by_cases hzero : x.magnitude = 0
  · obtain ⟨negative, magnitude⟩ := x
    subst hzero
    cases negative <;> decide +kernel
  · have hpos : 0 < x.magnitude := Nat.pos_of_ne_zero hzero
    have hfinite : x.magnitude < Format.single.infinity := of_decide_eq_true hx
    obtain ⟨hshort, -⟩ := Decimal.shortest_spec .up hpos hfinite
    have hconvert : x.respelled.convert =
        (⟨x.negative, (Decimal.shortest .single .up x.magnitude).reread⟩ : Single) := by
      rw [respelled, if_neg hzero, convert, isFinite, if_pos (decide_eq_true ?_)]
      · rw [ofFraction, Nat.pow_eq, Decimal.reread]
      · exact hshort.magnitude_double_lt
    rw [hconvert, Stable, ← Decimal.reread_shortest_iff hpos hfinite]
    constructor
    · intro h
      exact congrArg magnitude h
    · intro h
      rw [h]

end Binary

end Plotline.Numeral
