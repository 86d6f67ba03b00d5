import Mathlib.Tactic.Linarith
import Mathlib.Tactic.LinearCombination
import Mathlib.Tactic.Ring

/-!
# Fractions around a ratio

Two fractions `low ≤ a / b ≤ high` whose cross product is one are neighbours: every pair of whole
numbers is a combination of theirs. So a fraction whose numerator is smaller than the sum of both
numerators cannot lie between them, and unless it is a multiple of one of them it is at least as far
from the ratio as both (`Neighbours.Around.eq_multiple`).

`Neighbours.narrow` finds neighbours with large numerators: it replaces one of the two by their
mediant again and again.
-/

namespace Plotline.Numeral

/-- Two fractions, given by numerators and denominators. -/
structure Neighbours where
  lowNum : Nat
  lowDen : Nat
  highNum : Nat
  highDen : Nat

namespace Neighbours

/-- Zero and infinity. -/
def widest : Neighbours := ⟨0, 1, 1, 0⟩

/-- How far the ratio is above the lower fraction, scaled by both denominators. -/
def lowGap (c : Neighbours) (a b : Nat) : Nat := c.lowDen * a - c.lowNum * b

/-- How far the ratio is below the upper fraction. -/
def highGap (c : Neighbours) (a b : Nat) : Nat := c.highNum * b - c.highDen * a

/-- Neighbours around `a / b` whose numerators together reach `bound`, found in at most `fuel`
steps. -/
def narrow (a b bound : Nat) : Nat → Neighbours → Neighbours
  | 0, c => c
  | fuel + 1, c =>
    let num := c.lowNum + c.highNum
    let den := c.lowDen + c.highDen
    if bound ≤ num then c
    else if num * b ≤ den * a then narrow a b bound fuel { c with lowNum := num, lowDen := den }
    else narrow a b bound fuel { c with highNum := num, highDen := den }

/-- The fractions are neighbours and the ratio is between them. -/
structure Around (c : Neighbours) (a b : Nat) : Prop where
  low : c.lowNum * b ≤ c.lowDen * a
  high : c.highDen * a ≤ c.highNum * b
  cross : c.highNum * c.lowDen = c.lowNum * c.highDen + 1

section

variable {a b bound : Nat}

theorem around_widest : widest.Around a b where
  low := by simp [widest]
  high := by simp [widest]
  cross := rfl

theorem Around.narrow {fuel : Nat} {c : Neighbours} (h : c.Around a b) :
    (narrow a b bound fuel c).Around a b := by
  induction fuel generalizing c with
  | zero => exact h
  | succ fuel ih =>
    have hcross := h.cross
    rw [Neighbours.narrow]
    split
    · exact h
    · split
      · rename_i hlow
        refine ih ⟨hlow, h.high, ?_⟩
        dsimp only
        linarith
      · rename_i hhigh
        refine ih ⟨h.low, (Nat.not_le.mp hhigh).le, ?_⟩
        dsimp only
        linarith

/-- When a combination with coefficients of different signs is nearer than one of the two gaps, it
only takes the other one. -/
theorem eq_zero_of_near {p q low high gap : ℤ} (hlow : 0 ≤ low) (hhigh : 0 ≤ high) (hp : 0 < p)
    (hq : q ≤ 0) (hfar : gap ≤ low ∨ gap ≤ high) (hnear : p * low - q * high < gap) :
    q = 0 ∧ low < gap := by
  have hple : low ≤ p * low := le_mul_of_one_le_left hlow hp
  have hqle : 0 ≤ -q * high := mul_nonneg (by omega) hhigh
  have hlt : low < gap := by linarith
  refine ⟨?_, hlt⟩
  by_contra hne
  have hqge : high ≤ -q * high := le_mul_of_one_le_left hhigh (by omega)
  rcases hfar with hfar | hfar
  · linarith
  · linarith

/-- A fraction with a small numerator that is nearer to the ratio than one of its neighbours is a
multiple of the other one. -/
theorem Around.eq_multiple {c : Neighbours} (h : c.Around a b) {num den gap : Nat}
    (hpos : 0 < num) (hsmall : num < c.lowNum + c.highNum)
    (hfar : gap ≤ c.lowGap a b ∨ gap ≤ c.highGap a b)
    (hbelow : den * a < num * b + gap) (habove : num * b < den * a + gap) :
    (∃ k, num = k * c.lowNum ∧ den = k * c.lowDen ∧ c.lowGap a b < gap) ∨
      ∃ k, num = k * c.highNum ∧ den = k * c.highDen ∧ c.highGap a b < gap := by
  obtain ⟨hlow, hhigh, hcross⟩ := h
  have hlowGap : (c.lowGap a b : ℤ) = c.lowDen * a - c.lowNum * b := by
    rw [lowGap, Nat.cast_sub hlow]
    push_cast
    ring
  have hhighGap : (c.highGap a b : ℤ) = c.highNum * b - c.highDen * a := by
    rw [highGap, Nat.cast_sub hhigh]
    push_cast
    ring
  have hlow0 : (0 : ℤ) ≤ c.lowGap a b := Int.natCast_nonneg _
  have hhigh0 : (0 : ℤ) ≤ c.highGap a b := Int.natCast_nonneg _
  zify at hpos hsmall hfar hbelow habove hcross
  -- the coefficients of the combination
  obtain ⟨p, hp⟩ : ∃ p : ℤ, p = c.highNum * den - c.highDen * num := ⟨_, rfl⟩
  obtain ⟨q, hq⟩ : ∃ q : ℤ, q = c.lowDen * num - c.lowNum * den := ⟨_, rfl⟩
  have hnum : (num : ℤ) = p * c.lowNum + q * c.highNum := by
    rw [hp, hq]
    linear_combination (-(num : ℤ)) * hcross
  have hden : (den : ℤ) = p * c.lowDen + q * c.highDen := by
    rw [hp, hq]
    linear_combination (-(den : ℤ)) * hcross
  have hvalue : (den : ℤ) * a - num * b = p * c.lowGap a b - q * c.highGap a b := by
    rw [hnum, hden, hlowGap, hhighGap]
    ring
  have hlowNum : (0 : ℤ) ≤ c.lowNum := Int.natCast_nonneg _
  have hhighNum : (0 : ℤ) ≤ c.highNum := Int.natCast_nonneg _
  rcases le_or_gt p 0 with hp0 | hp0
  · rcases le_or_gt q 0 with hq0 | hq0
    · -- the numerator would not be positive
      have hple : p * c.lowNum ≤ 0 := mul_nonpos_of_nonpos_of_nonneg hp0 hlowNum
      have hqle : q * c.highNum ≤ 0 := mul_nonpos_of_nonpos_of_nonneg hq0 hhighNum
      linarith
    · obtain ⟨rfl, hlt⟩ := eq_zero_of_near hhigh0 hlow0 hq0 hp0 hfar.symm (by linarith)
      rw [zero_mul, zero_add] at hnum hden
      right
      refine ⟨q.toNat, ?_, ?_, by exact_mod_cast hlt⟩
      · zify
        rw [Int.toNat_of_nonneg hq0.le, hnum]
      · zify
        rw [Int.toNat_of_nonneg hq0.le, hden]
  · rcases le_or_gt q 0 with hq0 | hq0
    · obtain ⟨rfl, hlt⟩ := eq_zero_of_near hlow0 hhigh0 hp0 hq0 hfar (by linarith)
      rw [zero_mul, add_zero] at hnum hden
      left
      refine ⟨p.toNat, ?_, ?_, by exact_mod_cast hlt⟩
      · zify
        rw [Int.toNat_of_nonneg hp0.le, hnum]
      · zify
        rw [Int.toNat_of_nonneg hp0.le, hden]
    · -- the numerator would be at least the sum
      have hple : (c.lowNum : ℤ) ≤ p * c.lowNum := le_mul_of_one_le_left hlowNum hp0
      have hqle : (c.highNum : ℤ) ≤ q * c.highNum := le_mul_of_one_le_left hhighNum hq0
      linarith

end

end Neighbours

end Plotline.Numeral
