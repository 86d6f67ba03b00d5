import Mathlib.Data.List.TakeWhile
import Plotline.Numeral.Layout
import Plotline.Proofs.Numeral.Shortest

/-!
# Plain texts read back

The plain text of a finite short number is read as that number (`Binary.read?_plain`). The digits
that are written have the value of the shortest decimal, wherever the point is put among them, and a
decimal is rounded by its value.
-/

namespace Plotline.Numeral

namespace Decimal

/-! ## Runs of digits -/

theorem digitsFrom_eq (acc : Nat) (cs : List Char) :
    digitsFrom acc cs = Nat.ofDigitChars 10 cs acc := by
  rw [Nat.ofDigitChars_eq_foldl]
  rfl

theorem digitsFrom_append (acc : Nat) (cs ds : List Char) :
    digitsFrom acc (cs ++ ds) = digitsFrom (digitsFrom acc cs) ds := List.foldl_append

theorem digitsFrom_replicate_zero (acc k : Nat) :
    digitsFrom acc (List.replicate k '0') = acc * 10 ^ k := by
  induction k generalizing acc with
  | zero => simp [digitsFrom]
  | succ k ih =>
    rw [List.replicate_succ, digitsFrom, List.foldl_cons]
    refine (ih _).trans ?_
    rw [Nat.pow_succ]
    simp only [Nat.sub_self, Nat.add_zero]
    ring

theorem digitsFrom_repr (n : Nat) : digitsFrom 0 n.repr.toList = n := by
  rw [digitsFrom_eq, Nat.toList_repr, Nat.ofDigitChars_ten_toDigits]

theorem isDigit_repr (n : Nat) : ∀ c ∈ n.repr.toList, c.isDigit = true := by
  intro c hc
  rw [Nat.toList_repr] at hc
  exact Nat.isDigit_of_mem_toDigits (by decide) (by decide) hc

theorem isDigit_zeros (k : Nat) : ∀ c ∈ List.replicate k '0', c.isDigit = true := by
  intro c hc
  rw [List.eq_of_mem_replicate hc]
  decide

/-- A run of digits ends at the first character that is none. -/
theorem span_digits {ws tail : List Char} (hws : ∀ c ∈ ws, c.isDigit = true)
    (htail : ∀ c r, tail = c :: r → c.isDigit = false) :
    (ws ++ tail).takeWhile Char.isDigit = ws ∧ (ws ++ tail).dropWhile Char.isDigit = tail := by
  rw [List.takeWhile_append_of_pos hws, List.dropWhile_append_of_pos hws]
  cases tail with
  | nil => exact ⟨List.append_nil ws, rfl⟩
  | cons c r =>
    have hc : ¬ c.isDigit = true := by simp [htail c r rfl]
    rw [List.takeWhile_cons_of_neg hc, List.dropWhile_cons_of_neg hc]
    exact ⟨List.append_nil ws, rfl⟩

theorem not_digit_point (tail : List Char) :
    ∀ c r, '.' :: tail = c :: r → c.isDigit = false := by
  rintro c r h
  cases h
  decide

/-- What may stand behind the digits of a numeral: nothing, or an exponent. -/
def EndsNumeral (tail : List Char) : Prop := tail = [] ∨ ∃ es, tail = 'e' :: es

theorem EndsNumeral.not_digit {tail : List Char} (h : EndsNumeral tail) :
    ∀ c r, tail = c :: r → c.isDigit = false := by
  rintro c r rfl
  obtain h | ⟨es, h⟩ := h
  · cases h
  · cases h
    decide

theorem unsigned?_whole {ws tail : List Char} {e : Int} (hws : ∀ c ∈ ws, c.isDigit = true)
    (hne : ws ≠ []) (htail : EndsNumeral tail) (he : exponent? tail = some e) :
    unsigned? (ws ++ tail) = some ⟨digitsFrom 0 ws, e⟩ := by
  obtain ⟨htake, hdrop⟩ := span_digits hws htail.not_digit
  rw [unsigned?, htake, hdrop]
  obtain rfl | ⟨es, rfl⟩ := htail <;> simp [hne, he, digitsFrom]

theorem unsigned?_point {ws ps tail : List Char} {e : Int} (hws : ∀ c ∈ ws, c.isDigit = true)
    (hps : ∀ c ∈ ps, c.isDigit = true) (hne : ws ≠ []) (htail : EndsNumeral tail)
    (he : exponent? tail = some e) :
    unsigned? (ws ++ '.' :: (ps ++ tail)) = some ⟨digitsFrom 0 (ws ++ ps), e - ps.length⟩ := by
  obtain ⟨htake, hdrop⟩ := span_digits hws (not_digit_point (ps ++ tail))
  obtain ⟨htake', hdrop'⟩ := span_digits hps htail.not_digit
  simp [unsigned?, htake, hdrop, htake', hdrop', hne, he, digitsFrom_append]

/-! ## The point -/

/-- Digits with a point among them have their value, wherever the point stands. -/
theorem unsigned?_positional {ds : List Char} (hds : ∀ c ∈ ds, c.isDigit = true) (hne : ds ≠ [])
    (point : Int) : ∃ y, unsigned? (positional ds point) = some y ∧
      y.value = digitsFrom 0 ds * (10 : ℚ) ^ (point - ds.length) := by
  by_cases hsmall : point ≤ 0
  · obtain ⟨k, rfl⟩ := Int.exists_eq_neg_ofNat hsmall
    have hdigits : ∀ c ∈ List.replicate k '0' ++ ds, c.isDigit = true := by
      intro c hc
      rcases List.mem_append.mp hc with hc | hc
      · exact isDigit_zeros k c hc
      · exact hds c hc
    have htext : positional ds (-(k : ℤ)) = ['0'] ++ '.' :: (List.replicate k '0' ++ ds ++ []) := by
      rw [positional, if_pos hsmall, neg_neg, Int.toNat_natCast, List.append_nil]
      rfl
    rw [htext]
    refine ⟨_, unsigned?_point (isDigit_zeros 1) hdigits (by decide) (Or.inl rfl) rfl, ?_⟩
    have hexp : 0 - ((k + ds.length : Nat) : ℤ) = -(k : ℤ) - ds.length := by
      push_cast
      ring
    rw [value, digitsFrom_append, digitsFrom_append, digitsFrom_replicate_zero, List.length_append,
      List.length_replicate, hexp]
    simp [digitsFrom]
  · obtain ⟨k, rfl⟩ := Int.eq_ofNat_of_zero_le (le_of_not_ge hsmall)
    by_cases hinside : (k : ℤ) < ds.length
    · have htext : positional ds k = ds.take k ++ '.' :: (ds.drop k ++ []) := by
        rw [positional, if_neg hsmall, if_pos hinside, List.append_nil]
        rfl
      have hwhole : ds.take k ≠ [] := by
        intro hnil
        rcases List.take_eq_nil_iff.mp hnil with hk | hk
        · omega
        · exact hne hk
      rw [htext]
      refine ⟨_, unsigned?_point (fun c hc => hds c (List.mem_of_mem_take hc))
        (fun c hc => hds c (List.mem_of_mem_drop hc)) hwhole (Or.inl rfl) rfl, ?_⟩
      have hexp : 0 - ((ds.length - k : Nat) : ℤ) = (k : ℤ) - ds.length := by omega
      rw [value, List.take_append_drop, List.length_drop, hexp]
    · obtain ⟨j, rfl⟩ := Nat.exists_eq_add_of_le (show ds.length ≤ k by omega)
      have hdigits : ∀ c ∈ ds ++ List.replicate j '0', c.isDigit = true := by
        intro c hc
        rcases List.mem_append.mp hc with hc | hc
        · exact hds c hc
        · exact isDigit_zeros j c hc
      have htext : positional ds (ds.length + j : Nat) = ds ++ List.replicate j '0' ++ [] := by
        rw [positional, if_neg hsmall, if_neg hinside, Int.toNat_natCast, Nat.add_sub_cancel_left,
          List.append_nil]
      rw [htext]
      refine ⟨_, unsigned?_whole hdigits (by simp [hne]) (Or.inl rfl) rfl, ?_⟩
      rw [value, digitsFrom_append, digitsFrom_replicate_zero]
      push_cast
      simp

theorem positional_head {ds : List Char} (hds : ∀ c ∈ ds, c.isDigit = true) (hne : ds ≠ [])
    (point : Int) : ∃ c cs, positional ds point = c :: cs ∧ c.isDigit = true := by
  obtain ⟨d, ds, rfl⟩ := List.exists_cons_of_ne_nil hne
  have hd : d.isDigit = true := hds d (List.mem_cons_self ..)
  rw [positional]
  split
  · exact ⟨_, _, rfl, by decide⟩
  · split
    · obtain ⟨k, hk⟩ := Nat.exists_eq_add_of_le' (show 1 ≤ point.toNat by omega)
      rw [hk]
      exact ⟨_, _, rfl, hd⟩
    · exact ⟨_, _, rfl, hd⟩

/-- The digits that are written, and the zeros at their end that are left out. -/
theorem scientific_split (x : Decimal) :
    ∃ k, x.digits.repr.toList = x.scientific.1 ++ List.replicate k '0' := by
  generalize hcs : x.digits.repr.toList = cs
  have hfirst : x.scientific.1 = (cs.reverse.dropWhile (· = '0')).reverse := by rw [← hcs]; rfl
  refine ⟨(cs.reverse.takeWhile (· = '0')).length, ?_⟩
  have hzeros : cs.reverse.takeWhile (· = '0') =
      List.replicate (cs.reverse.takeWhile (· = '0')).length '0' := by
    refine List.eq_replicate_of_mem fun c hc => ?_
    simpa using List.mem_takeWhile_imp hc
  calc cs
    _ = cs.reverse.reverse := (List.reverse_reverse cs).symm
    _ = (cs.reverse.takeWhile (· = '0') ++ cs.reverse.dropWhile (· = '0')).reverse := by
        rw [List.takeWhile_append_dropWhile]
    _ = x.scientific.1 ++ (cs.reverse.takeWhile (· = '0')).reverse := by
        rw [List.reverse_append, hfirst]
    _ = _ := by rw [hzeros, List.reverse_replicate, List.length_replicate]

/-- The digits of a decimal and the place of their point keep its value. -/
theorem scientific_spec {x : Decimal} (hx : 0 < x.digits) :
    (∀ c ∈ x.scientific.1, c.isDigit = true) ∧ x.scientific.1 ≠ [] ∧
      digitsFrom 0 x.scientific.1 * (10 : ℚ) ^ (x.scientific.2 - x.scientific.1.length) =
        x.value := by
  obtain ⟨k, hsplit⟩ := x.scientific_split
  have hnumber : digitsFrom 0 (x.scientific.1 ++ List.replicate k '0') = x.digits := by
    rw [← hsplit, digitsFrom_repr]
  have hsecond : x.scientific.2 = x.exponent + (x.scientific.1 ++ List.replicate k '0').length := by
    rw [← hsplit]
    rfl
  have hdigits : ∀ c ∈ x.scientific.1, c.isDigit = true := by
    intro c hc
    apply isDigit_repr x.digits
    rw [hsplit]
    exact List.mem_append_left _ hc
  generalize x.scientific.1 = ds at *
  rw [digitsFrom_append, digitsFrom_replicate_zero] at hnumber
  refine ⟨hdigits, ?_, ?_⟩
  · rintro rfl
    rw [digitsFrom, List.foldl_nil, Nat.zero_mul] at hnumber
    omega
  · rw [hsecond, value, ← hnumber, List.length_append, List.length_replicate]
    have hexp : x.exponent + ((ds.length + k : Nat) : ℤ) - ds.length = k + x.exponent := by
      push_cast
      ring
    rw [hexp, zpow_add₀ (by norm_num), zpow_natCast]
    push_cast
    ring

end Decimal

/-! ## Reading a plain text -/

namespace Binary

variable {f : Format}

theorem toLower_of_isDigit {c : Char} (hc : c.isDigit = true) : c.toLower = c := by
  have hle : c.val ≤ '9'.val := of_decide_eq_true (Bool.and_eq_true_iff.mp hc).2
  refine dif_neg ?_
  rintro ⟨hge, -⟩
  exact absurd (UInt32.le_trans hge hle) (by decide)

/-- A text with a digit first, with or without a sign before it, is read as a numeral. -/
theorem read?_signed {x : Binary f} {c : Char} {cs : List Char} {d : Decimal}
    (hc : c.isDigit = true) (h : Decimal.unsigned? (c :: cs) = some d) :
    Decimal.read? f (x.signed (c :: cs)) = some ⟨x.negative, d.magnitude f⟩ := by
  have hsign : Decimal.sign (x.signed (c :: cs)).toList = (x.negative, c :: cs) := by
    rw [signed, String.toList_ofList]
    cases x.negative with
    | true => rfl
    | false =>
      have hminus : c ≠ '-' := by
        rintro rfl
        exact absurd hc (by decide)
      have hplus : c ≠ '+' := by
        rintro rfl
        exact absurd hc (by decide)
      simp [Decimal.sign, hminus, hplus]
  -- the names of infinity and of no number do not begin with a digit
  have hlower : c.toLower = c := toLower_of_isDigit hc
  have hword : ∀ w : String, w.toList.head?.any Char.isDigit = false →
      String.ofList ((c :: cs).map Char.toLower) ≠ w := by
    rintro w hw rfl
    rw [String.toList_ofList, List.map_cons, hlower, List.head?_cons, Option.any_some, hc] at hw
    cases hw
  rw [Decimal.read?, hsign]
  simp only [hword "inf" (by decide), hword "infinity" (by decide), hword "nan" (by decide),
    or_self, if_false, h, Option.map_some]

/-- A finite short number is read back from its plain text. -/
theorem read?_plain {x : Single} (hx : x.isFinite = true) :
    Decimal.read? .single x.plain = some x := by
  by_cases hzero : x.magnitude = 0
  · have hread : Decimal.unsigned? ['0'] = some ⟨0, 0⟩ := by decide
    rw [plain, if_pos hzero, read?_signed (by decide) hread]
    have hmag : Decimal.magnitude .single ⟨0, 0⟩ = 0 := by decide
    rw [hmag, ← hzero]
  · obtain ⟨hshort, hback⟩ := Decimal.shortest_spec .up (Nat.pos_of_ne_zero hzero)
      (of_decide_eq_true hx)
    obtain ⟨hdigits, hne, hvalue⟩ := Decimal.scientific_spec hshort.pos
    have hplain : x.plain = x.signed
        (positional (Decimal.shortest .single .up x.magnitude).scientific.1
          (Decimal.shortest .single .up x.magnitude).scientific.2) := by
      rw [plain, if_neg hzero, if_pos hx]
    obtain ⟨y, hread, hy⟩ := Decimal.unsigned?_positional hdigits hne
      (Decimal.shortest .single .up x.magnitude).scientific.2
    obtain ⟨c, cs, hcs, hc⟩ := Decimal.positional_head hdigits hne
      (Decimal.shortest .single .up x.magnitude).scientific.2
    rw [hcs] at hread
    rw [hplain, hcs, read?_signed hc hread]
    have hsame := hvalue.symm.trans hy.symm
    rw [← Decimal.magnitude_congr hshort.inReach (hshort.inReach.congr hsame) hsame, hback]

theorem plain_inj {x y : Single} (hx : x.isFinite = true) (hy : y.isFinite = true)
    (h : x.plain = y.plain) : x = y := by
  have hread := read?_plain hx
  rw [h, read?_plain hy] at hread
  exact (Option.some.inj hread).symm

end Binary

end Plotline.Numeral
