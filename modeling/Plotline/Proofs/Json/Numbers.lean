import Plotline.Json.Printer
import Plotline.Json.Reader
import Plotline.Proofs.Numeral.Plain

/-!
# Numbers of documents read back

A whole number of at most 64 bits and every finite floating point number is read back from its text
in a document (`Draft.reads_int`, `Draft.reads_float`). A floating point number is always written
with a point or an exponent, so that it is never taken for a whole one.
-/

namespace Plotline

namespace Numeral.Decimal

/-! ## Shortest decimals of long numbers -/

section

variable {x : Decimal} {f : Format} {m : Nat}

/-- What is rounded to a finite number other than zero is rounded by its value. -/
theorem inReach_of_magnitude (hpos : 0 < x.magnitude f) (hfinite : x.magnitude f < f.infinity) :
    x.InReach := by
  rw [magnitude] at hpos hfinite
  by_cases hlow : x.digits = 0 ∨ x.exponent + width x.digits < -reach
  · rw [if_pos hlow] at hpos
    exact absurd hpos (Nat.lt_irrefl 0)
  · by_cases hhigh : reach < x.exponent + width x.digits
    · rw [if_neg hlow, if_pos hhigh] at hfinite
      exact absurd hfinite (Nat.lt_irrefl _)
    · obtain ⟨hzero, hsmall⟩ := not_or.mp hlow
      exact ⟨hzero, by omega, by omega⟩

theorem digits_exact_pos (hm : 0 < m) : 0 < (exact f m).digits :=
  Nat.mul_pos (Format.units_pos hm) (Nat.pow_pos (by decide))

theorem value_exact : (exact f m).value = exactValue f m := by
  have hten : (10 : ℚ) ^ f.depth = 5 ^ f.depth * 2 ^ f.depth := by
    rw [← mul_pow]
    norm_num
  rw [exact, value, exactValue, zpow_neg, zpow_natCast, hten]
  simp only [Nat.pow_eq]
  push_cast
  field_simp

theorem magnitude_exact (h : (exact f m).InReach) (hm : m < f.infinity) :
    (exact f m).magnitude f = m := by
  refine magnitude_eq_of_value_eq h hm ?_
  rw [value_exact, exactValue, div_mul_cancel₀ _ (by positivity)]

/-- The binade of a finite magnitude bounds it. -/
theorem units_le_binade (hm : 0 < m) (hfinite : m < f.infinity) :
    ∃ t, f.units m ≤ 2 ^ (f.fractionBits + 1 + t) ∧ t * f.binade < f.infinity := by
  obtain ⟨t, k, hmk, -, hk, -, hunits, -⟩ := Format.exists_step (f := f) hm
  refine ⟨t, ?_, by omega⟩
  calc f.units m
    _ = k * 2 ^ t := hunits
    _ ≤ 2 * 2 ^ f.fractionBits * 2 ^ t := Nat.mul_le_mul_right _ hk
    _ = 2 ^ (f.fractionBits + 1 + t) := by rw [← Nat.pow_succ', ← Nat.pow_add]

theorem two_pow_le_ten_pow (k : Nat) : (2 : ℚ) ^ (3 * k) ≤ 10 ^ k := by
  rw [pow_mul]
  exact pow_le_pow_left₀ (by norm_num) (by norm_num) k

theorem exactValue_double (hm : 0 < m) (hfinite : m < Format.double.infinity) :
    (10 : ℚ) ^ (-358 : ℤ) ≤ exactValue .double m ∧ exactValue .double m ≤ 10 ^ (350 : ℤ) := by
  have hdepth : Format.double.depth = 1074 := rfl
  have hone : (1 : ℚ) ≤ Format.double.units m := by exact_mod_cast Format.units_pos hm
  rw [exactValue, hdepth]
  constructor
  · calc (10 : ℚ) ^ (-358 : ℤ)
      _ = 1 / 10 ^ 358 := by rw [zpow_neg, one_div]; rfl
      _ ≤ 1 / 2 ^ (3 * 358) := one_div_le_one_div_of_le (by positivity) (two_pow_le_ten_pow 358)
      _ ≤ Format.double.units m / 2 ^ (3 * 358) := by gcongr
  · obtain ⟨t, hunits, ht⟩ := units_le_binade hm hfinite
    have hbinade : Format.double.binade = 2 ^ 52 := rfl
    have hinfinity : Format.double.infinity = 2047 * 2 ^ 52 := rfl
    have hbits : Format.double.fractionBits = 52 := rfl
    rw [hbinade, hinfinity] at ht
    have hle : (Format.double.units m : ℚ) ≤ 2 ^ (52 + 1 + t) := by exact_mod_cast hbits ▸ hunits
    rw [div_le_iff₀ (by positivity)]
    calc (Format.double.units m : ℚ)
      _ ≤ 2 ^ (52 + 1 + t) := hle
      _ ≤ 2 ^ (3 * 350 + 1074) := pow_le_pow_right₀ (by norm_num) (by omega)
      _ = 2 ^ (3 * 350) * 2 ^ 1074 := pow_add _ _ _
      _ ≤ 10 ^ (350 : ℤ) * 2 ^ 1074 :=
          mul_le_mul_of_nonneg_right (two_pow_le_ten_pow 350) (by positivity)

/-- The exact value of a long number is neither too large nor too small to be read. -/
theorem inReach_exact (hm : 0 < m) (hfinite : m < Format.double.infinity) :
    (exact .double m).InReach := by
  have hdigits := digits_exact_pos (f := .double) hm
  have hvalue := value_exact (f := .double) (m := m)
  obtain ⟨hge, hle⟩ := exactValue_double hm hfinite
  obtain ⟨hlow, hhigh⟩ := value_bounds hdigits
  rw [hvalue] at hlow hhigh
  have hlow' := (zpow_lt_zpow_iff_right₀ (by norm_num)).mp (lt_of_le_of_lt hge hhigh)
  have hhigh' := (zpow_le_zpow_iff_right₀ (by norm_num)).mp (le_trans hlow hle)
  refine ⟨hdigits.ne', ?_, ?_⟩ <;> rw [reach] <;> omega

/-- A finite long number is read back from its shortest decimal: the grids only have decimals that
read back, and the exact value does so as well. -/
theorem magnitude_shortest (tie : Tie) (hm : 0 < m) (hfinite : m < Format.double.infinity) :
    (shortest .double tie m).magnitude .double = m := by
  rw [shortest]
  cases hgrid : (List.range 17).findSome? fun k => onGrid? .double tie m (k + 1) with
  | some x =>
    obtain ⟨k, -, hk⟩ := List.exists_of_findSome?_eq_some hgrid
    exact (eq_of_onGrid? hk).1
  | none => exact magnitude_exact (inReach_exact hm hfinite) hfinite

end

/-! ## Leading digits -/

theorem head?_toDigits_ne {n : Nat} (hn : 0 < n) : (Nat.toDigits 10 n).head? ≠ some '0' := by
  induction n using Nat.strongRecOn with
  | ind n ih =>
    by_cases hlt : n < 10
    · rw [Nat.toDigits_of_lt_base hlt, List.head?_cons, ne_eq, Option.some.injEq,
        Nat.digitChar_eq_zero]
      exact hn.ne'
    · rw [Nat.toDigits_of_base_le (by decide) (by omega),
        List.head?_append_of_ne_nil _ Nat.toDigits_ne_nil]
      exact ih (n / 10) (by omega) (by omega)

/-- No zero stands in front of the digits of a decimal. -/
theorem head?_scientific_ne {x : Decimal} (hx : 0 < x.digits) :
    x.scientific.1.head? ≠ some '0' := by
  obtain ⟨k, hsplit⟩ := x.scientific_split
  obtain ⟨-, hne, -⟩ := scientific_spec hx
  have hhead := head?_toDigits_ne hx
  rw [← Nat.toList_repr, hsplit, List.head?_append_of_ne_nil _ hne] at hhead
  exact hhead

/-- The exponent that is written behind a number. -/
theorem exponent?_signed (e : Int) :
    exponent? ('e' :: (if e < 0 then '-' else '+') :: e.natAbs.repr.toList) = some e := by
  have hne : e.natAbs.repr.toList ≠ [] := by
    rw [Nat.toList_repr]
    exact Nat.toDigits_ne_nil
  have hall : e.natAbs.repr.toList.all Char.isDigit = true := List.all_eq_true.mpr (isDigit_repr _)
  by_cases he : e < 0
  · simp only [exponent?, sign, if_pos he, hall, hne, digitsFrom_repr, true_or, ne_eq,
      not_false_eq_true, and_self, if_true]
    congr 1
    omega
  · simp only [exponent?, sign, if_neg he, hall, hne, digitsFrom_repr, true_or, ne_eq,
      not_false_eq_true, and_self, if_true]
    congr 1
    simp only [Bool.false_eq_true, if_false]
    omega

end Numeral.Decimal

namespace Json

open Numeral Decimal

/-! ## Numerals -/

/-- The characters of words: all but blanks, quotes and punctuation. -/
def Token.isWordChar (c : Char) : Bool := !(isBlank c || c = '"' || (punctuation? c).isSome)

namespace Draft

/-- The digits that a numeral may begin with. -/
def Leads (ws : List Char) : Prop := ws = ['0'] ∨ ws ≠ [] ∧ ws.head? ≠ some '0'

theorem leads_repr (n : Nat) : Leads n.repr.toList := by
  rw [Nat.toList_repr]
  rcases Nat.eq_zero_or_pos n with rfl | hn
  · exact Or.inl rfl
  · exact Or.inr ⟨Nat.toDigits_ne_nil, head?_toDigits_ne hn⟩

section

variable {ws ps tail cs : List Char} {e : Int} {d : Decimal}

theorem leads_iff :
    (decide (ws = ['0']) || (!ws.isEmpty && decide (ws.head? ≠ some '0'))) = true ↔ Leads ws := by
  simp [Leads]

theorem Leads.ne_nil (h : Leads ws) : ws ≠ [] := by
  rcases h with rfl | h
  · simp
  · exact h.1

theorem isNumeral_whole (hws : ∀ c ∈ ws, c.isDigit = true) (hlead : Leads ws)
    (htail : EndsNumeral tail) (he : exponent? tail = some e) : isNumeral (ws ++ tail) = true := by
  obtain ⟨htake, hdrop⟩ := span_digits hws htail.not_digit
  rw [isNumeral, htake, hdrop, leads_iff.mpr hlead]
  obtain rfl | ⟨es, rfl⟩ := htail <;> simp [he]

theorem isNumeral_point (hws : ∀ c ∈ ws, c.isDigit = true) (hps : ∀ c ∈ ps, c.isDigit = true)
    (hlead : Leads ws) (hne : ps ≠ []) (htail : EndsNumeral tail) (he : exponent? tail = some e) :
    isNumeral (ws ++ '.' :: (ps ++ tail)) = true := by
  obtain ⟨htake, hdrop⟩ := span_digits hws (not_digit_point (ps ++ tail))
  obtain ⟨htake', hdrop'⟩ := span_digits hps htail.not_digit
  rw [isNumeral, htake, hdrop, leads_iff.mpr hlead]
  simp [htake', hdrop', hne, he]

/-- A numeral begins with a digit. -/
theorem head_of_isNumeral (h : isNumeral cs = true) : ∃ c r, cs = c :: r ∧ c.isDigit = true := by
  cases cs with
  | nil => exact absurd h (by decide)
  | cons c r =>
    refine ⟨c, r, rfl, ?_⟩
    by_contra hc
    rw [isNumeral, List.takeWhile_cons_of_neg hc] at h
    simp at h

/-- The characters of numerals. -/
def isNumeralChar (c : Char) : Bool :=
  c.isDigit || c = '.' || c = 'e' || c = 'E' || c = '+' || c = '-'

theorem isNumeralChar_of_sign (h : ∀ c ∈ (sign cs).2, isNumeralChar c = true) :
    ∀ c ∈ cs, isNumeralChar c = true := by
  cases cs with
  | nil => exact h
  | cons c r =>
    by_cases hminus : c = '-'
    · subst hminus
      exact List.forall_mem_cons.mpr ⟨by decide, h⟩
    · by_cases hplus : c = '+'
      · subst hplus
        exact List.forall_mem_cons.mpr ⟨by decide, h⟩
      · have hsign : sign (c :: r) = (false, c :: r) := by simp [sign, hminus, hplus]
        rwa [hsign] at h

theorem isNumeralChar_of_exponent? (h : (exponent? cs).isSome = true) :
    ∀ c ∈ cs, isNumeralChar c = true := by
  cases cs with
  | nil => simp
  | cons m cs =>
    by_cases hguard : (m = 'e' ∨ m = 'E') ∧ (sign cs).2 ≠ [] ∧ (sign cs).2.all Char.isDigit
    · obtain ⟨hm, -, hall⟩ := hguard
      have hmark : isNumeralChar m = true := by rcases hm with rfl | rfl <;> decide
      have hdigits : ∀ c ∈ (sign cs).2, isNumeralChar c = true := by
        intro c hc
        rw [isNumeralChar, List.all_eq_true.mp hall c hc]
        simp
      exact List.forall_mem_cons.mpr ⟨hmark, isNumeralChar_of_sign hdigits⟩
    · have hnone : exponent? (m :: cs) = none := if_neg hguard
      rw [hnone] at h
      cases h

/-- The text of a numeral is made of digits, signs, points and marks of exponents. -/
theorem isNumeralChar_of_isNumeral (h : isNumeral cs = true) :
    ∀ c ∈ cs, isNumeralChar c = true := by
  have hdigits : ∀ r : List Char, ∀ c ∈ r.takeWhile Char.isDigit, isNumeralChar c = true := by
    intro r c hc
    rw [isNumeralChar, List.mem_takeWhile_imp hc]
    simp
  have hparts : ∀ r : List Char, (∀ c ∈ r.dropWhile Char.isDigit, isNumeralChar c = true) →
      ∀ c ∈ r, isNumeralChar c = true := by
    intro r hdrop c hc
    rw [← List.takeWhile_append_dropWhile (p := Char.isDigit) (l := r)] at hc
    rcases List.mem_append.mp hc with hc | hc
    · exact hdigits r c hc
    · exact hdrop c hc
  apply hparts
  rw [isNumeral, Bool.and_eq_true] at h
  replace h := h.2
  -- behind the whole part there is a point with digits, or only an exponent
  generalize cs.dropWhile Char.isDigit = rest at h
  by_cases hpoint : ∃ r, rest = '.' :: r
  · obtain ⟨r, rfl⟩ := hpoint
    refine List.forall_mem_cons.mpr ⟨by decide, hparts r ?_⟩
    apply isNumeralChar_of_exponent?
    by_cases hempty : (r.takeWhile Char.isDigit).isEmpty = true <;> simp_all
  · apply isNumeralChar_of_exponent?
    split at h <;> simp_all

/-! ## Floating point numbers -/

/-- A text that is read as a decimal, and that is not taken for a whole number. -/
structure Spells (cs : List Char) (d : Decimal) : Prop where
  isNumeral : isNumeral cs = true
  unsigned? : unsigned? cs = some d
  not_whole : cs.all Char.isDigit = false

theorem not_whole_of_mem {c : Char} (hc : c ∈ cs) (h : c.isDigit = false) :
    cs.all Char.isDigit = false :=
  List.all_eq_false.mpr ⟨c, hc, by simp [h]⟩

theorem spells_whole {es : List Char} (hws : ∀ c ∈ ws, c.isDigit = true) (hlead : Leads ws)
    (he : exponent? ('e' :: es) = some e) : Spells (ws ++ 'e' :: es) ⟨digitsFrom 0 ws, e⟩ where
  isNumeral := isNumeral_whole hws hlead (Or.inr ⟨es, rfl⟩) he
  unsigned? := unsigned?_whole hws hlead.ne_nil (Or.inr ⟨es, rfl⟩) he
  not_whole := not_whole_of_mem (c := 'e') (by simp) (by decide)

theorem spells_point (hws : ∀ c ∈ ws, c.isDigit = true) (hps : ∀ c ∈ ps, c.isDigit = true)
    (hlead : Leads ws) (hne : ps ≠ []) (htail : EndsNumeral tail) (he : exponent? tail = some e) :
    Spells (ws ++ '.' :: (ps ++ tail)) ⟨digitsFrom 0 (ws ++ ps), e - ps.length⟩ where
  isNumeral := isNumeral_point hws hps hlead hne htail he
  unsigned? := unsigned?_point hws hps hlead.ne_nil htail he
  not_whole := not_whole_of_mem (c := '.') (by simp) (by decide)

end

section

variable {ds : List Char}

/-- Digits on both sides of a point that stands before the last of them. -/
theorem exists_point_of_positional (hds : ∀ c ∈ ds, c.isDigit = true) (hne : ds ≠ [])
    (hhead : ds.head? ≠ some '0') {point : Int} (hpoint : point < ds.length) :
    ∃ ws ps, positional ds point = ws ++ '.' :: (ps ++ []) ∧ (∀ c ∈ ws, c.isDigit = true) ∧
      (∀ c ∈ ps, c.isDigit = true) ∧ Leads ws ∧ ps ≠ [] := by
  by_cases hsmall : point ≤ 0
  · refine ⟨['0'], List.replicate (-point).toNat '0' ++ ds, ?_, by simp, ?_, Or.inl rfl,
      by simp [hne]⟩
    · rw [positional, if_pos hsmall, List.append_nil]
      rfl
    · intro c hc
      rcases List.mem_append.mp hc with hc | hc
      · exact isDigit_zeros _ c hc
      · exact hds c hc
  · refine ⟨ds.take point.toNat, ds.drop point.toNat, ?_,
      fun c hc => hds c (List.mem_of_mem_take hc), fun c hc => hds c (List.mem_of_mem_drop hc),
      Or.inr ⟨?_, ?_⟩, ?_⟩
    · rw [positional, if_neg hsmall, if_pos hpoint, List.append_nil]
    · intro hnil
      rcases List.take_eq_nil_iff.mp hnil with hk | hk
      · omega
      · exact hne hk
    · rwa [List.head?_take, if_neg (by omega)]
    · rw [ne_eq, List.drop_eq_nil_iff]
      omega

/-- The text without an exponent. Where all digits stand before the point, a zero is put behind
it. -/
theorem exists_spells_positional (hds : ∀ c ∈ ds, c.isDigit = true) (hne : ds ≠ [])
    (hhead : ds.head? ≠ some '0') (point : Int) :
    ∃ d, Spells (if ds.length ≤ point then positional ds point ++ ['.', '0']
        else positional ds point) d ∧
      d.value = digitsFrom 0 ds * (10 : ℚ) ^ (point - ds.length) := by
  by_cases hwhole : ds.length ≤ point
  · obtain ⟨j, rfl⟩ := Int.le.dest hwhole
    have htext : positional ds (ds.length + j) = ds ++ List.replicate j '0' := by
      have hlen : 0 < ds.length := List.length_pos_iff.mpr hne
      rw [positional, if_neg (by omega), if_neg (by omega)]
      congr 2
      omega
    have hws : ∀ c ∈ ds ++ List.replicate j '0', c.isDigit = true := by
      intro c hc
      rcases List.mem_append.mp hc with hc | hc
      · exact hds c hc
      · exact isDigit_zeros j c hc
    have hlead : Leads (ds ++ List.replicate j '0') := by
      refine Or.inr ⟨by simp [hne], ?_⟩
      rwa [List.head?_append_of_ne_nil _ hne]
    rw [if_pos hwhole, htext]
    refine ⟨_, spells_point hws (isDigit_zeros 1) hlead (by simp) (Or.inl rfl) rfl, ?_⟩
    rw [value, digitsFrom_append, digitsFrom_append, digitsFrom_replicate_zero,
      digitsFrom_replicate_zero, add_sub_cancel_left, zpow_natCast]
    simp only [List.length_replicate]
    push_cast
    field_simp
  · rw [if_neg hwhole]
    obtain ⟨ws, ps, htext, hws, hps, hlead, hps'⟩ :=
      exists_point_of_positional hds hne hhead (not_le.mp hwhole)
    obtain ⟨d, hread, hd⟩ := unsigned?_positional hds hne point
    refine ⟨d, ⟨?_, hread, ?_⟩, hd⟩
    · rw [htext]
      exact isNumeral_point hws hps hlead hps' (Or.inl rfl) rfl
    · rw [htext]
      exact not_whole_of_mem (c := '.') (by simp) (by decide)

/-- The text with an exponent. -/
theorem exists_spells_exponential (hds : ∀ c ∈ ds, c.isDigit = true) (hne : ds ≠ [])
    (hhead : ds.head? ≠ some '0') (point : Int) :
    ∃ d, Spells (Binary.exponential ds point) d ∧
      d.value = digitsFrom 0 ds * (10 : ℚ) ^ (point - ds.length) := by
  have he := exponent?_signed (point - 1)
  cases ds with
  | nil => exact absurd rfl hne
  | cons c ds =>
    have hlead : Leads [c] := Or.inr ⟨by simp, by simpa using hhead⟩
    have hc : ∀ d ∈ [c], d.isDigit = true := by
      intro d hd
      rw [List.mem_singleton.mp hd]
      exact hds c (List.mem_cons_self ..)
    cases ds with
    | nil => exact ⟨_, spells_whole hc hlead he, by simp [value]⟩
    | cons d ds =>
      refine ⟨_, spells_point hc (fun x hx => hds x (List.mem_cons_of_mem _ hx)) hlead (by simp)
        (Or.inr ⟨_, rfl⟩) he, ?_⟩
      have hexp : point - 1 - ((d :: ds).length : ℤ) = point - ((c :: d :: ds).length : ℤ) := by
        simp only [List.length_cons]
        push_cast
        ring
      rw [value, hexp]
      rfl

end

/-- The text of a finite number: a numeral that is rounded to the number. -/
theorem exists_spells_inDocument {x : Double} (hx : x.isFinite = true) :
    ∃ cs d, x.inDocument = x.signed cs ∧ Spells cs d ∧ d.magnitude .double = x.magnitude := by
  by_cases hzero : x.magnitude = 0
  · have hdigits : ∀ c ∈ ['0'], c.isDigit = true := by simp
    refine ⟨['0', '.', '0'], _, if_pos hzero,
      spells_point hdigits hdigits (Or.inl rfl) (by simp) (Or.inl rfl) rfl, ?_⟩
    rw [hzero]
    rfl
  · have hback := magnitude_shortest .toEven (Nat.pos_of_ne_zero hzero) (of_decide_eq_true hx)
    generalize hy : shortest .double .toEven x.magnitude = y at hback
    have hreach : y.InReach := by
      apply inReach_of_magnitude (f := .double)
      · rw [hback]
        exact Nat.pos_of_ne_zero hzero
      · rw [hback]
        exact of_decide_eq_true hx
    have hpos : 0 < y.digits := Nat.pos_of_ne_zero hreach.ne_zero
    obtain ⟨hdigits, hne, hvalue⟩ := scientific_spec hpos
    have hhead := head?_scientific_ne hpos
    -- both layouts keep the value, and a decimal is rounded by its value
    have hround : ∀ d : Decimal,
        d.value = digitsFrom 0 y.scientific.1 *
          (10 : ℚ) ^ (y.scientific.2 - y.scientific.1.length) →
        d.magnitude .double = x.magnitude := by
      intro d hd
      have hsame : y.value = d.value := by rw [hd, hvalue]
      rw [← magnitude_congr hreach (hreach.congr hsame) hsame, hback]
    by_cases hplain : -5 < y.scientific.2 ∧ y.scientific.2 ≤ 16
    · obtain ⟨d, hspells, hd⟩ := exists_spells_positional hdigits hne hhead y.scientific.2
      refine ⟨_, d, ?_, hspells, hround d hd⟩
      rw [Binary.inDocument, if_neg hzero, if_pos hx, hy]
      exact if_pos hplain
    · obtain ⟨d, hspells, hd⟩ := exists_spells_exponential hdigits hne hhead y.scientific.2
      refine ⟨_, d, ?_, hspells, hround d hd⟩
      rw [Binary.inDocument, if_neg hzero, if_pos hx, hy]
      exact if_neg hplain

/-! ## Words -/

/-- A text that is one word, and what it spells. -/
structure Reads (cs : List Char) (d : Draft) : Prop where
  ne_nil : cs ≠ []
  isWordChar : ∀ c ∈ cs, Token.isWordChar c = true
  word? : word? cs = some d

theorem isWordChar_of_isNumeralChar {c : Char} (h : isNumeralChar c = true) :
    Token.isWordChar c = true := by
  have hne : ∀ d : Char, isNumeralChar d = false → c ≠ d := by
    rintro d hd rfl
    rw [h] at hd
    cases hd
  simp [Token.isWordChar, Token.isBlank, Token.punctuation?, hne ' ' (by decide),
    hne '\n' (by decide), hne '\r' (by decide), hne '\t' (by decide), hne '"' (by decide),
    hne '[' (by decide), hne ']' (by decide), hne '\x7b' (by decide), hne '\x7d' (by decide),
    hne ',' (by decide), hne ':' (by decide)]

theorem reads_null : Reads (compact .null).toList (.plain .null) :=
  ⟨by simp [compact], List.all_eq_true.mp rfl, rfl⟩

theorem reads_bool (b : Bool) : Reads (compact (.bool b)).toList (.plain (.bool b)) := by
  cases b with
  | true => exact ⟨by simp [compact], List.all_eq_true.mp rfl, rfl⟩
  | false => exact ⟨by simp [compact], List.all_eq_true.mp rfl, rfl⟩

/-- A numeral, with or without a minus sign before it, is a word for a number. -/
theorem reads_number {cs : List Char} {d : Draft} (negative : Bool) (h : isNumeral cs = true)
    (hd : number? negative cs = some d) : Reads (if negative then '-' :: cs else cs) d := by
  have hchars := isNumeralChar_of_isNumeral h
  obtain ⟨c, r, rfl, hc⟩ := head_of_isNumeral h
  cases negative with
  | true =>
    refine ⟨by simp, fun x hx => isWordChar_of_isNumeralChar ?_, ?_⟩
    · rcases List.mem_cons.mp hx with rfl | hx
      · decide
      · exact hchars x hx
    · simpa [word?] using hd
  | false =>
    have hne : ∀ d : Char, d.isDigit = false → c ≠ d := by
      rintro d hd rfl
      rw [hc] at hd
      cases hd
    refine ⟨by simp, fun x hx => isWordChar_of_isNumeralChar (hchars x hx), ?_⟩
    simpa [word?, hne 'n' (by decide), hne 't' (by decide), hne 'f' (by decide),
      hne '-' (by decide)] using hd

/-- A finite number is read back from its text. -/
theorem reads_float {x : Double} (hx : x.isFinite = true) :
    Reads (compact (.float x)).toList (.number (some (.float x))) := by
  obtain ⟨cs, d, htext, hspells, hd⟩ := exists_spells_inDocument hx
  rw [compact, htext, Binary.signed, String.toList_ofList]
  apply reads_number _ hspells.isNumeral
  rw [number?, if_pos hspells.isNumeral]
  simp only [hspells.not_whole, hspells.unsigned?, Bool.false_eq_true, false_and, if_false,
    Option.map_some, hd]
  rw [if_pos hx]

/-- A whole number of at most 64 bits is read back from its text. -/
theorem reads_int {n : Int} (hlow : -2 ^ 63 ≤ n) (hhigh : n < 2 ^ 64) :
    Reads (compact (.int n)).toList (.number (some (.int n))) := by
  have hnumeral : ∀ m : Nat, isNumeral m.repr.toList = true := by
    intro m
    have h := isNumeral_whole (isDigit_repr m) (leads_repr m) (Or.inl rfl) rfl
    rwa [List.append_nil] at h
  have hall : ∀ m : Nat, m.repr.toList.all Char.isDigit = true := fun m =>
    List.all_eq_true.mpr (isDigit_repr m)
  cases n with
  | ofNat m =>
    have hm : m < 2 ^ 64 := by
      rw [Int.ofNat_eq_natCast] at hhigh
      exact_mod_cast hhigh
    apply reads_number false (hnumeral m)
    rw [number?, if_pos (hnumeral m), digitsFrom_repr, if_pos ⟨hall m, by simp, hm⟩]
    rfl
  | negSucc m =>
    have hm : m + 1 ≤ 2 ^ 63 := by omega
    have htext : (compact (.int (Int.negSucc m))).toList = '-' :: (m + 1).repr.toList :=
      String.toList_append ..
    rw [htext]
    apply reads_number true (hnumeral (m + 1))
    rw [number?, if_pos (hnumeral (m + 1)), digitsFrom_repr, if_neg (by simp),
      if_pos ⟨hall (m + 1), rfl, Nat.succ_pos m, hm⟩]
    rfl

end Draft

end Json

end Plotline
