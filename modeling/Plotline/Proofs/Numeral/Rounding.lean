import Mathlib.Tactic.Linarith
import Mathlib.Tactic.Ring
import Plotline.Numeral.Binary

/-!
# Rounding to a binary format

The values of a format come in binades: from each power of two to the next there are `binade` equal
steps, and below the first power there are as many of the same size. So every magnitude is
`t * binade + k` with the value `k * 2 ^ t` (`Format.units_binade`), where `k` may also be the end
of its binade.

`Format.nearest_eq_of_near` says that a fraction between the middles of the two gaps around a
magnitude is rounded to this magnitude, and `Format.nearest_bounds` that no other fraction is, but
for the middles themselves. `Format.nearest_error` says that the relative error of rounding is at
most half a step of the smallest value in a binade, and `Format.nearest_mono` that rounding keeps
the order. Fractions are compared by cross multiplication.
-/

namespace Plotline.Numeral.Format

/-! ## Whole quotients -/

theorem divideToEven_eq {n d k : Nat} (hlow : 2 * (k * d) < 2 * n + d)
    (hhigh : 2 * n < 2 * (k * d) + d) : divideToEven n d = k := by
  have hd : 0 < d := by omega
  have hdiv := Nat.div_add_mod n d
  have hmod := Nat.mod_lt n hd
  rw [Nat.mul_comm] at hdiv
  have hle : n / d ≤ k := by
    by_contra hlt
    have hmul : (k + 1) * d ≤ n / d * d := Nat.mul_le_mul_right d (by omega)
    rw [Nat.add_mul] at hmul
    omega
  have hge : k ≤ n / d + 1 := by
    by_contra hlt
    have hmul : (n / d + 2) * d ≤ k * d := Nat.mul_le_mul_right d (by omega)
    rw [Nat.add_mul] at hmul
    omega
  rw [divideToEven]
  rcases Nat.eq_or_lt_of_le hle with heq | hlt
  · -- the quotient is below
    rw [heq] at hdiv ⊢
    rw [if_neg (by omega)]
  · have heq : n / d + 1 = k := by omega
    have hk : k * d = n / d * d + d := by rw [← heq, Nat.add_mul, Nat.one_mul]
    rw [if_pos (by omega), heq]

/-- The error is at most one half. -/
theorem divideToEven_error {n d : Nat} (hd : 0 < d) :
    2 * n ≤ 2 * (divideToEven n d * d) + d ∧ 2 * (divideToEven n d * d) ≤ 2 * n + d := by
  have hdiv := Nat.div_add_mod n d
  have hmod := Nat.mod_lt n hd
  rw [Nat.mul_comm] at hdiv
  rw [divideToEven]
  split
  · rw [Nat.add_mul]
    omega
  · omega

theorem divideToEven_le {n d k : Nat} (hd : 0 < d) (h : n < k * d) : divideToEven n d ≤ k := by
  obtain ⟨-, herr⟩ := divideToEven_error (n := n) hd
  by_contra hgt
  have hmul : (k + 1) * d ≤ divideToEven n d * d := Nat.mul_le_mul_right _ (by omega)
  linarith [hmul, herr, h]

theorem le_divideToEven {n d k : Nat} (hd : 0 < d) (h : k * d ≤ n) : k ≤ divideToEven n d := by
  obtain ⟨herr, -⟩ := divideToEven_error (n := n) hd
  by_contra hlt
  have hmul : (divideToEven n d + 1) * d ≤ k * d := Nat.mul_le_mul_right _ (by omega)
  linarith [hmul, herr, h]

theorem divideToEven_mul {n d c : Nat} (hc : 0 < c) :
    divideToEven (n * c) (d * c) = divideToEven n d := by
  have hless : d * c < 2 * (n % d * c) ↔ d < 2 * (n % d) := by
    rw [← Nat.mul_assoc, Nat.mul_lt_mul_right hc]
  have heq : d * c = 2 * (n % d * c) ↔ d = 2 * (n % d) := by
    rw [← Nat.mul_assoc, Nat.mul_right_cancel_iff hc]
  simp only [divideToEven, Nat.mul_div_mul_right _ _ hc, Nat.mul_mod_mul_right, hless, heq]

theorem divideToEven_mono {n n' d : Nat} (h : n ≤ n') : divideToEven n d ≤ divideToEven n' d := by
  rcases Nat.eq_zero_or_pos d with rfl | hd
  · simp only [divideToEven, Nat.div_zero, Nat.mod_zero]
    split <;> split <;> omega
  · have hdiv := Nat.div_add_mod n d
    have hdiv' := Nat.div_add_mod n' d
    have hmod := Nat.mod_lt n hd
    have hmod' := Nat.mod_lt n' hd
    rcases Nat.eq_or_lt_of_le (Nat.div_le_div_right (c := d) h) with heq | hlt
    · -- the remainders are compared when the quotients are equal
      rw [heq] at hdiv
      simp only [divideToEven, heq]
      split <;> split <;> omega
    · simp only [divideToEven]
      split <;> split <;> omega

/-! ## Binades -/

section

variable {f : Format}

/-- The number of values from a power of two to the next. -/
def binade (f : Format) : Nat := 2 ^ f.fractionBits

theorem binade_pos : 0 < f.binade := Nat.two_pow_pos _

theorem units_of_lt {m : Nat} (h : m < f.binade) : f.units m = m := by
  have hzero : m / Nat.pow 2 f.fractionBits = 0 := Nat.div_eq_of_lt h
  rw [units, if_pos hzero]
  exact Nat.mod_eq_of_lt h

/-- A magnitude in a binade, its end included. -/
theorem units_binade {t k : Nat} (hlow : f.binade ≤ k) (hhigh : k ≤ 2 * f.binade) :
    f.units (t * f.binade + k) = k * 2 ^ t := by
  have hpos : 0 < f.binade := binade_pos
  have hunits : ∀ s r, r < f.binade →
      f.units ((s + 1) * f.binade + r) = (f.binade + r) * 2 ^ s := by
    intro s r hr
    have hdiv : ((s + 1) * f.binade + r) / f.binade = s + 1 := by
      rw [Nat.mul_comm, Nat.mul_add_div hpos, Nat.div_eq_of_lt hr, Nat.add_zero]
    have hmod : ((s + 1) * f.binade + r) % f.binade = r := by
      rw [Nat.mul_comm, Nat.mul_add_mod, Nat.mod_eq_of_lt hr]
    have hdef : f.units ((s + 1) * f.binade + r) =
        if ((s + 1) * f.binade + r) / f.binade = 0 then ((s + 1) * f.binade + r) % f.binade
        else (f.binade + ((s + 1) * f.binade + r) % f.binade) *
          2 ^ (((s + 1) * f.binade + r) / f.binade - 1) := rfl
    rw [hdef, hdiv, hmod, if_neg (Nat.succ_ne_zero s), Nat.add_sub_cancel]
  rcases Nat.eq_or_lt_of_le hhigh with rfl | hlt
  · -- the end of the binade is the start of the next one
    have hsplit : t * f.binade + 2 * f.binade = (t + 1 + 1) * f.binade + 0 := by ring
    rw [hsplit, hunits (t + 1) 0 hpos]
    ring
  · obtain ⟨r, rfl⟩ := Nat.exists_eq_add_of_le hlow
    have hsplit : t * f.binade + (f.binade + r) = (t + 1) * f.binade + r := by ring
    rw [hsplit, hunits t r (by omega)]

/-- Every magnitude but zero stands at the end of a step of size `2 ^ t`. -/
theorem exists_step {m : Nat} (hm : 0 < m) :
    ∃ t k, m = t * f.binade + k ∧ 0 < k ∧ k ≤ 2 * f.binade ∧ (t = 0 ∨ f.binade < k) ∧
      f.units m = k * 2 ^ t ∧ f.units (m - 1) = (k - 1) * 2 ^ t := by
  have hpos : 0 < f.binade := binade_pos
  rcases Nat.lt_or_ge m f.binade with hlt | hge
  · refine ⟨0, m, by omega, hm, by omega, Or.inl rfl, ?_, ?_⟩
    · simpa using units_of_lt hlt
    · simpa using units_of_lt (show m - 1 < f.binade by omega)
  · have hdiv := Nat.div_add_mod m f.binade
    have hmod := Nat.mod_lt m hpos
    have hone : 1 ≤ m / f.binade := (Nat.one_le_div_iff hpos).mpr hge
    obtain ⟨t, ht⟩ := Nat.exists_eq_add_of_le hone
    have hm' : m = t * f.binade + (f.binade + m % f.binade) := by
      rw [ht] at hdiv
      linarith [hdiv]
    generalize m % f.binade = r at hm' hmod
    subst hm'
    rcases Nat.eq_zero_or_pos r with rfl | hr
    · rcases Nat.eq_zero_or_pos t with rfl | ht'
      · refine ⟨0, f.binade, by omega, hpos, by omega, Or.inl rfl, ?_, ?_⟩
        · simpa using units_binade (t := 0) (le_refl f.binade) (by omega)
        · simpa using units_of_lt (show f.binade - 1 < f.binade by omega)
      · -- the start of a binade, seen as the end of the one before
        obtain ⟨s, rfl⟩ := Nat.exists_eq_add_of_le ht'
        have hend : (1 + s) * f.binade + (f.binade + 0) = s * f.binade + 2 * f.binade := by ring
        refine ⟨s, 2 * f.binade, hend, by omega, le_refl _, Or.inr (by omega), ?_, ?_⟩
        · rw [hend]
          exact units_binade (by omega) (le_refl _)
        · have hpred : (1 + s) * f.binade + (f.binade + 0) - 1 =
              s * f.binade + (2 * f.binade - 1) := by omega
          rw [hpred]
          exact units_binade (by omega) (by omega)
    · refine ⟨t, f.binade + r, rfl, by omega, by omega, Or.inr (by omega), ?_, ?_⟩
      · exact units_binade (by omega) (by omega)
      · have hpred : t * f.binade + (f.binade + r) - 1 = t * f.binade + (f.binade + r - 1) := by
          omega
        rw [hpred]
        exact units_binade (by omega) (by omega)

theorem units_one : f.units 1 = 1 := by
  obtain ⟨t, k, hmk, hk, -, -, hunits, -⟩ := f.exists_step Nat.one_pos
  have hpos : 0 < f.binade := binade_pos
  have ht : t = 0 := by
    by_contra ht
    have hle : f.binade ≤ t * f.binade := Nat.le_mul_of_pos_left _ (by omega)
    omega
  subst ht
  rw [hunits]
  omega

/-- A magnitude in a binade, or below the first one. -/
theorem units_steps {t k : Nat} (hbin : t = 0 ∨ f.binade ≤ k) (hk : k ≤ 2 * f.binade) :
    f.units (t * f.binade + k) = k * 2 ^ t := by
  rcases Nat.lt_or_ge k f.binade with hlt | hge
  · obtain rfl : t = 0 := hbin.resolve_right (by omega)
    simpa using units_of_lt hlt
  · exact units_binade hge hk

theorem units_pred_lt {m : Nat} (hm : 0 < m) : f.units (m - 1) < f.units m := by
  obtain ⟨t, k, -, hk, -, -, hunits, hpred⟩ := f.exists_step hm
  rw [hunits, hpred]
  exact Nat.mul_lt_mul_of_pos_right (by omega) (Nat.two_pow_pos t)

theorem units_pos {m : Nat} (hm : 0 < m) : 0 < f.units m :=
  Nat.lt_of_le_of_lt (Nat.zero_le _) (units_pred_lt hm)

theorem units_mono {m m' : Nat} (h : m ≤ m') : f.units m ≤ f.units m' := by
  induction m' with
  | zero =>
    obtain rfl : m = 0 := by omega
    exact Nat.le_refl _
  | succ m' ih =>
    rcases Nat.eq_or_lt_of_le h with rfl | hlt
    · exact Nat.le_refl _
    · exact (ih (by omega)).trans (units_pred_lt (Nat.succ_pos m')).le

/-- A number with few enough digits that is not too small is a value of the format. -/
theorem exists_units_eq {k t : Nat} (hpos : 0 < k) (hk : k < 2 * f.binade)
    (ht : f.fractionBits ≤ t) : ∃ m ≤ (t + 2) * f.binade, f.units m = k * 2 ^ t := by
  have hlow : 2 ^ k.log2 ≤ k := Nat.log2_self_le (by omega)
  have hhigh : k < 2 ^ (k.log2 + 1) := Nat.lt_log2_self
  have hlog : k.log2 ≤ f.fractionBits := by
    by_contra hlt
    have hmono : 2 ^ (f.fractionBits + 1) ≤ 2 ^ k.log2 :=
      Nat.pow_le_pow_right (by decide) (by omega)
    rw [Nat.pow_succ'] at hmono
    exact absurd (hmono.trans hlow) (Nat.not_le.mpr hk)
  -- shifted to the left until the leading digit is that of a binade
  obtain ⟨j, hj⟩ := Nat.exists_eq_add_of_le hlog
  obtain ⟨s, rfl⟩ : ∃ s, t = j + s := Nat.exists_eq_add_of_le (by omega)
  have hbinade : f.binade = 2 ^ k.log2 * 2 ^ j := by rw [binade, hj, Nat.pow_add]
  have hge : f.binade ≤ k * 2 ^ j := hbinade ▸ Nat.mul_le_mul_right _ hlow
  have hle : k * 2 ^ j ≤ 2 * f.binade := by
    rw [hbinade, ← Nat.mul_assoc, ← Nat.pow_succ']
    exact Nat.mul_le_mul_right _ hhigh.le
  refine ⟨s * f.binade + k * 2 ^ j, ?_, ?_⟩
  · calc s * f.binade + k * 2 ^ j
      _ ≤ s * f.binade + 2 * f.binade := Nat.add_le_add_left hle _
      _ = (s + 2) * f.binade := by ring
      _ ≤ (j + s + 2) * f.binade := Nat.mul_le_mul_right _ (by omega)
  · rw [units_binade hge hle, Nat.pow_add]
    ring

/-- The gap below a value is not small. -/
theorem units_le_gap {m : Nat} (hm : 0 < m) :
    f.units m + 2 * f.binade * f.units (m - 1) ≤ 2 * f.binade * f.units m := by
  obtain ⟨t, k, -, hk, hle, -, hunits, hpred⟩ := f.exists_step hm
  obtain ⟨j, rfl⟩ := Nat.exists_eq_add_of_le' hk
  rw [hunits, hpred, Nat.add_sub_cancel]
  have hmul : (j + 1) * 2 ^ t ≤ 2 * f.binade * 2 ^ t := Nat.mul_le_mul_right _ hle
  calc (j + 1) * 2 ^ t + 2 * f.binade * (j * 2 ^ t)
    _ ≤ 2 * f.binade * 2 ^ t + 2 * f.binade * (j * 2 ^ t) := Nat.add_le_add_right hmul _
    _ = 2 * f.binade * ((j + 1) * 2 ^ t) := by ring

/-! ## Nearest magnitudes -/

/-- In which binade a fraction is rounded. -/
theorem shift_eq {q t : Nat} (hlow : t = 0 ∨ f.binade * 2 ^ t ≤ q)
    (hhigh : q < 2 * f.binade * 2 ^ t) : q.log2 - f.fractionBits = t := by
  have hpow : ∀ s, f.binade * 2 ^ s = 2 ^ (f.fractionBits + s) := fun s => (Nat.pow_add ..).symm
  rw [Nat.mul_assoc, hpow, ← Nat.pow_succ'] at hhigh
  rcases Nat.eq_zero_or_pos q with rfl | hq
  · rcases hlow with rfl | hlow
    · simp
    · rw [hpow] at hlow
      exact absurd hlow (by simp)
  · have hlt : q.log2 < f.fractionBits + t + 1 := (Nat.log2_lt (by omega)).mpr hhigh
    rcases hlow with rfl | hlow
    · omega
    · rw [hpow] at hlow
      have hle : f.fractionBits + t ≤ q.log2 := (Nat.le_log2 (by omega)).mpr hlow
      omega

variable {n d : Nat}

theorem nearest_of_shift {t : Nat} (h : (n * 2 ^ f.depth / d).log2 - f.fractionBits = t) :
    f.nearest n d =
      min (t * f.binade + divideToEven (n * 2 ^ f.depth) (d * 2 ^ t)) f.infinity := by
  subst h
  rfl

/-- A fraction that is not below the first binade is in one of them. -/
theorem exists_shift (hd : 0 < d) (hnormal : f.binade * d ≤ n * 2 ^ f.depth) :
    ∃ t, (n * 2 ^ f.depth / d).log2 - f.fractionBits = t ∧
      f.binade * (d * 2 ^ t) ≤ n * 2 ^ f.depth ∧
      n * 2 ^ f.depth < 2 * (f.binade * (d * 2 ^ t)) := by
  generalize n * 2 ^ f.depth = N at *
  have hq : f.binade ≤ N / d := (Nat.le_div_iff_mul_le hd).mpr hnormal
  have hq0 : N / d ≠ 0 := by
    have hpos : 0 < f.binade := binade_pos
    omega
  have hlog : f.fractionBits ≤ (N / d).log2 := (Nat.le_log2 hq0).mpr hq
  obtain ⟨t, ht⟩ := Nat.exists_eq_add_of_le hlog
  obtain ⟨hlow, hhigh⟩ := (Nat.log2_eq_iff hq0).mp ht
  refine ⟨t, by omega, ?_, ?_⟩
  · have hle := (Nat.le_div_iff_mul_le hd).mp hlow
    calc f.binade * (d * 2 ^ t)
      _ = 2 ^ (f.fractionBits + t) * d := by rw [binade, Nat.pow_add]; ring
      _ ≤ N := hle
  · have hlt := (Nat.div_lt_iff_lt_mul hd).mp hhigh
    calc N
      _ < 2 ^ (f.fractionBits + t + 1) * d := hlt
      _ = 2 * (f.binade * (d * 2 ^ t)) := by rw [binade, Nat.pow_succ, Nat.pow_add]; ring

/-- A fraction in the binade `t` is rounded to the number of steps of it that is nearest. -/
theorem nearest_of_steps {t k : Nat} (hd : 0 < d) (hfinite : t * f.binade + k < f.infinity)
    (hge : t = 0 ∨ f.binade * (d * 2 ^ t) ≤ n * 2 ^ f.depth)
    (hlt : n * 2 ^ f.depth < 2 * (f.binade * (d * 2 ^ t)))
    (hlow : 2 * (k * (d * 2 ^ t)) < 2 * (n * 2 ^ f.depth) + d * 2 ^ t)
    (hhigh : 2 * (n * 2 ^ f.depth) < 2 * (k * (d * 2 ^ t)) + d * 2 ^ t) :
    f.nearest n d = t * f.binade + k := by
  have hstep : ∀ b, b * (d * 2 ^ t) = b * 2 ^ t * d := fun b => by ring
  have hshift : (n * 2 ^ f.depth / d).log2 - f.fractionBits = t := by
    refine shift_eq (hge.imp_right fun hge => ?_) ?_
    · rw [hstep] at hge
      exact (Nat.le_div_iff_mul_le hd).mpr hge
    · rw [← Nat.mul_assoc, hstep] at hlt
      exact (Nat.div_lt_iff_lt_mul hd).mpr hlt
  rw [nearest_of_shift hshift, divideToEven_eq hlow hhigh]
  exact Nat.min_eq_left hfinite.le

/-- A fraction above a power of two, but below the middle of the first step behind it. -/
theorem nearest_eq_binade {t : Nat} (hd : 0 < d) (hfinite : t * f.binade + f.binade < f.infinity)
    (hge : f.binade * (d * 2 ^ t) ≤ n * 2 ^ f.depth)
    (hhigh : 2 * (n * 2 ^ f.depth) < 2 * (f.binade * (d * 2 ^ t)) + d * 2 ^ t) :
    f.nearest n d = t * f.binade + f.binade := by
  have hD : 0 < d * 2 ^ t := Nat.mul_pos hd (Nat.two_pow_pos t)
  have hmul : d * 2 ^ t ≤ f.binade * (d * 2 ^ t) := Nat.le_mul_of_pos_left _ binade_pos
  exact nearest_of_steps hd hfinite (Or.inr hge) (by omega) (by omega) hhigh

/-- A fraction is rounded to the magnitude whose middles to both neighbours are around it. -/
theorem nearest_eq_of_near {m : Nat} (hm : m < f.infinity)
    (hlow : 0 < m → (f.units (m - 1) + f.units m) * d < 2 * (n * 2 ^ f.depth))
    (hhigh : 2 * (n * 2 ^ f.depth) < (f.units m + f.units (m + 1)) * d) :
    f.nearest n d = m := by
  have hpos : 0 < f.binade := binade_pos
  have hd : 0 < d := by
    rcases Nat.eq_zero_or_pos d with rfl | hd
    · simp at hhigh
    · exact hd
  rcases Nat.eq_zero_or_pos m with rfl | hm0
  · have hunits : f.units 0 + f.units (0 + 1) = 1 := by
      rw [units_of_lt hpos, units_one]
    rw [hunits] at hhigh
    have hmul : d ≤ f.binade * (d * 2 ^ 0) := by
      rw [Nat.pow_zero, Nat.mul_one]
      exact Nat.le_mul_of_pos_left d hpos
    have hzero := nearest_of_steps (f := f) (n := n) (t := 0) (k := 0) hd (by omega) (Or.inl rfl)
      (by omega) (by omega) (by omega)
    omega
  · obtain ⟨t, k, rfl, hk, hk2, hbin, hunits, hpred⟩ := f.exists_step hm0
    obtain ⟨j, rfl⟩ := Nat.exists_eq_add_of_le' hk
    have hlow' : 2 * ((j + 1) * (d * 2 ^ t)) < 2 * (n * 2 ^ f.depth) + d * 2 ^ t := by
      have hmul := hlow hm0
      rw [hunits, hpred, Nat.add_sub_cancel] at hmul
      linarith [hmul]
    -- above the magnitude, the step is the same unless its binade ends there
    have hhigh' : j + 1 < 2 * f.binade →
        2 * (n * 2 ^ f.depth) < 2 * ((j + 1) * (d * 2 ^ t)) + d * 2 ^ t := by
      intro hlt
      have hnext : f.units (t * f.binade + (j + 1) + 1) = (j + 2) * 2 ^ t :=
        units_steps (k := j + 2) (hbin.imp_right fun h => by omega) (by omega)
      rw [hunits, hnext] at hhigh
      linarith [hhigh]
    rcases Nat.lt_or_ge (n * 2 ^ f.depth) (2 * (f.binade * (d * 2 ^ t))) with hlt | hge
    · refine nearest_of_steps hd hm (hbin.imp_right fun hlt' => ?_) hlt hlow' ?_
      · have hmul : (f.binade + 1) * (d * 2 ^ t) ≤ (j + 1) * (d * 2 ^ t) :=
          Nat.mul_le_mul_right _ hlt'
        rw [Nat.add_mul] at hmul
        omega
      · rcases Nat.eq_or_lt_of_le hk2 with heq | hlt'
        · have hD : 0 < d * 2 ^ t := Nat.mul_pos hd (Nat.two_pow_pos t)
          rw [heq, Nat.mul_assoc]
          omega
        · exact hhigh' hlt'
    · -- the magnitude is a power of two, and the fraction is in the binade behind it
      have hend : j + 1 = 2 * f.binade := by
        by_contra hne
        have hnear := hhigh' (by omega)
        have hmul : (j + 2) * (d * 2 ^ t) ≤ 2 * f.binade * (d * 2 ^ t) :=
          Nat.mul_le_mul_right _ (by omega)
        linarith [hnear, hmul, hge]
      have hstart : t * f.binade + (j + 1) = (t + 1) * f.binade + f.binade := by
        rw [hend]
        ring
      have hnext : f.units ((t + 1) * f.binade + f.binade + 1) = (f.binade + 1) * 2 ^ (t + 1) :=
        units_binade (Nat.le_succ _) (by omega)
      rw [hstart] at hm ⊢
      rw [hstart, hnext, units_binade (le_refl _) (by omega)] at hhigh
      have hdouble : d * 2 ^ (t + 1) = 2 * (d * 2 ^ t) := by ring
      refine nearest_eq_binade hd hm ?_ ?_
      · rw [hdouble]
        linarith [hge]
      · linarith [hhigh]

/-- What is at least the smallest value of the first binade is rounded with a relative error of at
most half a step of that binade. -/
theorem nearest_error (hd : 0 < d) (hnormal : f.binade * d ≤ n * 2 ^ f.depth)
    (hfinite : f.nearest n d < f.infinity) :
    2 * f.binade * (f.units (f.nearest n d) * d) ≤ (2 * f.binade + 1) * (n * 2 ^ f.depth) ∧
      (2 * f.binade - 1) * (n * 2 ^ f.depth) ≤ 2 * f.binade * (f.units (f.nearest n d) * d) := by
  have hpos : 0 < f.binade := binade_pos
  obtain ⟨t, hshift, hlow, hhigh⟩ := exists_shift hd hnormal
  have hnearest := nearest_of_shift hshift
  generalize n * 2 ^ f.depth = N at *
  have hD : 0 < d * 2 ^ t := Nat.mul_pos hd (Nat.two_pow_pos t)
  obtain ⟨herr, herr'⟩ := divideToEven_error (n := N) hD
  have hk : f.binade ≤ divideToEven N (d * 2 ^ t) := le_divideToEven hD hlow
  have hk' : divideToEven N (d * 2 ^ t) ≤ 2 * f.binade :=
    divideToEven_le hD (by rwa [Nat.mul_assoc])
  generalize divideToEven N (d * 2 ^ t) = k at *
  have heq : f.nearest n d = t * f.binade + k := by omega
  have hunits : f.units (f.nearest n d) * d = k * (d * 2 ^ t) := by
    rw [heq, units_binade hk hk']
    ring
  rw [hunits]
  -- the error is at most half a step, and `N` is at least `binade` steps
  constructor
  · calc 2 * f.binade * (k * (d * 2 ^ t))
      _ = f.binade * (2 * (k * (d * 2 ^ t))) := by ring
      _ ≤ f.binade * (2 * N + d * 2 ^ t) := Nat.mul_le_mul_left _ herr'
      _ = 2 * f.binade * N + f.binade * (d * 2 ^ t) := by ring
      _ ≤ 2 * f.binade * N + N := Nat.add_le_add_left hlow _
      _ = (2 * f.binade + 1) * N := by ring
  · have hsub : (2 * f.binade - 1) * N + N = f.binade * (2 * N) := by
      obtain ⟨j, hj⟩ := Nat.exists_eq_add_of_le' (show 1 ≤ 2 * f.binade by omega)
      rw [← Nat.mul_assoc, Nat.mul_comm f.binade, hj, Nat.add_sub_cancel]
      ring
    have hmul : f.binade * (2 * N) ≤ 2 * f.binade * (k * (d * 2 ^ t)) + N := by
      calc f.binade * (2 * N)
        _ ≤ f.binade * (2 * (k * (d * 2 ^ t)) + d * 2 ^ t) := Nat.mul_le_mul_left _ herr
        _ = 2 * f.binade * (k * (d * 2 ^ t)) + f.binade * (d * 2 ^ t) := by ring
        _ ≤ 2 * f.binade * (k * (d * 2 ^ t)) + N := Nat.add_le_add_left hlow _
    omega

/-- The binade in which a fraction is rounded holds it, or is the first one. -/
theorem exists_binade (n : Nat) (hd : 0 < d) :
    ∃ t, (n * 2 ^ f.depth / d).log2 - f.fractionBits = t ∧
      (t = 0 ∨ f.binade * (d * 2 ^ t) ≤ n * 2 ^ f.depth) ∧
      n * 2 ^ f.depth < 2 * (f.binade * (d * 2 ^ t)) := by
  have hpos : 0 < f.binade := binade_pos
  rcases Nat.lt_or_ge (n * 2 ^ f.depth) (f.binade * d) with hlt | hge
  · refine ⟨0, shift_eq (Or.inl rfl) ?_, Or.inl rfl, ?_⟩
    · have hq : n * 2 ^ f.depth / d < f.binade := (Nat.div_lt_iff_lt_mul hd).mpr hlt
      omega
    · rw [Nat.pow_zero, Nat.mul_one]
      omega
  · obtain ⟨t, hshift, hlow, hhigh⟩ := exists_shift hd hge
    exact ⟨t, hshift, Or.inr hlow, hhigh⟩

/-- A fraction is not beyond the middles of the gaps around the magnitude that it is rounded to. -/
theorem nearest_bounds (hd : 0 < d) (hfinite : f.nearest n d < f.infinity) :
    (f.units (f.nearest n d - 1) + f.units (f.nearest n d)) * d ≤ 2 * (n * 2 ^ f.depth) ∧
      2 * (n * 2 ^ f.depth) ≤ (f.units (f.nearest n d) + f.units (f.nearest n d + 1)) * d := by
  obtain ⟨t, hshift, hlow, hhigh⟩ := exists_binade (f := f) n hd
  have hnearest := nearest_of_shift hshift
  generalize n * 2 ^ f.depth = N at *
  have hD : 0 < d * 2 ^ t := Nat.mul_pos hd (Nat.two_pow_pos t)
  obtain ⟨herr, herr'⟩ := divideToEven_error (n := N) hD
  have hbin : t = 0 ∨ f.binade ≤ divideToEven N (d * 2 ^ t) := hlow.imp_right (le_divideToEven hD)
  have hk : divideToEven N (d * 2 ^ t) ≤ 2 * f.binade :=
    divideToEven_le hD (by rwa [Nat.mul_assoc])
  generalize divideToEven N (d * 2 ^ t) = k at *
  have heq : f.nearest n d = t * f.binade + k := by omega
  have hunits : f.units (f.nearest n d) * d = k * (d * 2 ^ t) := by
    rw [heq, units_steps hbin hk]
    ring
  rw [Nat.add_mul, Nat.add_mul, hunits]
  constructor
  · by_cases hstep : 0 < k ∧ (t = 0 ∨ f.binade < k)
    · obtain ⟨hpos, hstep⟩ := hstep
      obtain ⟨j, rfl⟩ := Nat.exists_eq_add_of_le' hpos
      have hpred : f.units (f.nearest n d - 1) = j * 2 ^ t := by
        rw [heq, ← Nat.add_assoc, Nat.add_sub_cancel]
        exact units_steps (hstep.imp_right Nat.le_of_lt_succ) (by omega)
      rw [hpred]
      linarith
    · -- zero, or the start of a binade
      have hmono : f.units (f.nearest n d - 1) * d ≤ f.units (f.nearest n d) * d :=
        Nat.mul_le_mul_right d (units_mono (Nat.sub_le _ _))
      have hle : k * (d * 2 ^ t) ≤ N := by
        rcases Nat.eq_zero_or_pos k with rfl | hpos
        · rw [Nat.zero_mul]
          exact Nat.zero_le _
        · have hne : t ≠ 0 := fun ht => hstep ⟨hpos, Or.inl ht⟩
          have hstart : k ≤ f.binade := Nat.not_lt.mp fun hlt => hstep ⟨hpos, Or.inr hlt⟩
          exact (Nat.mul_le_mul_right _ hstart).trans (hlow.resolve_left hne)
      rw [hunits] at hmono
      linarith
  · rcases Nat.lt_or_ge k (2 * f.binade) with hlt | hge
    · have hnext : f.units (f.nearest n d + 1) = (k + 1) * 2 ^ t := by
        rw [heq, Nat.add_assoc]
        exact units_steps (hbin.imp_right fun _ => by omega) (by omega)
      rw [hnext]
      linarith
    · -- the binade ends here
      have hmono : f.units (f.nearest n d) * d ≤ f.units (f.nearest n d + 1) * d :=
        Nat.mul_le_mul_right d (units_mono (Nat.le_succ _))
      have hmul : 2 * f.binade * (d * 2 ^ t) ≤ k * (d * 2 ^ t) := Nat.mul_le_mul_right _ hge
      rw [hunits] at hmono
      linarith

/-- What is below the end of a finite binade is not rounded to infinity. -/
theorem nearest_lt_infinity {t : Nat} (hd : 0 < d)
    (h : n * 2 ^ f.depth < 2 ^ (f.fractionBits + 1 + t) * d)
    (ht : (t + 2) * f.binade < f.infinity) : f.nearest n d < f.infinity := by
  generalize hshift : (n * 2 ^ f.depth / d).log2 - f.fractionBits = s
  rw [nearest_of_shift hshift]
  generalize n * 2 ^ f.depth = N at *
  have hlog : (N / d).log2 < f.fractionBits + 1 + t := by
    rcases Nat.eq_zero_or_pos (N / d) with hq | hq
    · rw [hq, Nat.log2_zero]
      omega
    · exact (Nat.log2_lt (by omega)).mpr ((Nat.div_lt_iff_lt_mul hd).mpr h)
  -- the fraction is below the end of the binade in which it is rounded
  have hlt : N < 2 * (f.binade * (d * 2 ^ s)) := by
    have hpow : N / d < 2 ^ (f.fractionBits + s + 1) :=
      Nat.lt_of_lt_of_le Nat.lt_log2_self (Nat.pow_le_pow_right (by decide) (by omega))
    calc N
      _ < 2 ^ (f.fractionBits + s + 1) * d := (Nat.div_lt_iff_lt_mul hd).mp hpow
      _ = 2 * (f.binade * (d * 2 ^ s)) := by rw [binade, Nat.pow_succ, Nat.pow_add]; ring
  have hD : 0 < d * 2 ^ s := Nat.mul_pos hd (Nat.two_pow_pos s)
  have hk : divideToEven N (d * 2 ^ s) ≤ 2 * f.binade :=
    divideToEven_le hD (by rwa [Nat.mul_assoc])
  have hs : s * f.binade ≤ t * f.binade := Nat.mul_le_mul_right _ (by omega)
  rw [Nat.add_mul] at ht
  omega

/-- Rounding depends on the quotient only. -/
theorem nearest_congr {n' d' : Nat} (hd : 0 < d) (hd' : 0 < d') (h : n * d' = n' * d) :
    f.nearest n d = f.nearest n' d' := by
  have hscale : ∀ n d c, 0 < c → f.nearest (n * c) (d * c) = f.nearest n d := by
    intro n d c hc
    have hN : n * c * Nat.pow 2 f.depth = n * Nat.pow 2 f.depth * c := by ring
    have hD : ∀ s, d * c * Nat.pow 2 s = d * Nat.pow 2 s * c := fun s => by ring
    simp only [nearest, hN, hD, Nat.mul_div_mul_right _ _ hc, divideToEven_mul hc]
  calc f.nearest n d
    _ = f.nearest (n * d') (d * d') := (hscale n d d' hd').symm
    _ = f.nearest (n' * d) (d' * d) := by rw [h, Nat.mul_comm d]
    _ = f.nearest n' d' := hscale n' d' d hd

/-- Rounding keeps the order. -/
theorem nearest_mono {n' : Nat} (hd : 0 < d) (h : n ≤ n') : f.nearest n d ≤ f.nearest n' d := by
  obtain ⟨t, hshift, hlow, hhigh⟩ := exists_binade (f := f) n hd
  obtain ⟨t', hshift', hlow', hhigh'⟩ := exists_binade (f := f) n' hd
  rw [nearest_of_shift hshift, nearest_of_shift hshift']
  have hN : n * 2 ^ f.depth ≤ n' * 2 ^ f.depth := Nat.mul_le_mul_right _ h
  generalize n * 2 ^ f.depth = N at *
  generalize n' * 2 ^ f.depth = N' at *
  refine min_le_min_right _ ?_
  have hstep : ∀ s, d * 2 ^ (s + 1) = 2 * (d * 2 ^ s) := fun s => by ring
  rcases Nat.lt_trichotomy t t' with hlt | rfl | hgt
  · -- at most the end of the one binade, at least the start of the other
    have hD : 0 < d * 2 ^ t := Nat.mul_pos hd (Nat.two_pow_pos t)
    have hD' : 0 < d * 2 ^ t' := Nat.mul_pos hd (Nat.two_pow_pos t')
    have hk : divideToEven N (d * 2 ^ t) ≤ 2 * f.binade :=
      divideToEven_le hD (by rwa [Nat.mul_assoc])
    have hk' : f.binade ≤ divideToEven N' (d * 2 ^ t') :=
      le_divideToEven hD' (hlow'.resolve_left (by omega))
    have hmul : (t + 1) * f.binade ≤ t' * f.binade := Nat.mul_le_mul_right _ hlt
    rw [Nat.add_mul] at hmul
    omega
  · exact Nat.add_le_add_left (divideToEven_mono hN) _
  · exfalso
    obtain ⟨s, rfl⟩ : ∃ s, t = t' + 1 + s := Nat.exists_eq_add_of_le hgt
    have hle := hlow.resolve_left (by omega)
    have hpow : d * 2 ^ (t' + 1) ≤ d * 2 ^ (t' + 1 + s) :=
      Nat.mul_le_mul_left _ (Nat.pow_le_pow_right (by decide) (by omega))
    rw [hstep] at hpow
    have hmul := Nat.mul_le_mul_left f.binade hpow
    rw [← Nat.mul_assoc, Nat.mul_comm f.binade 2, Nat.mul_assoc] at hmul
    omega

end

end Plotline.Numeral.Format
