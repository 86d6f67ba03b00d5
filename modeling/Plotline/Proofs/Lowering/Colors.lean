import Plotline.Proofs.Lowering.Literals

/-!
# Colors written as text

The color of a particle may be written as a hash and six digits in base sixteen, two each for red,
green and blue (`SpellsColor`). Reading a text counts bytes and then takes what follows the hash for
a numeral, which may have a sign. So a few other texts are read as well: those with a plus in front
of five digits, and one with a minus in front of zeros (`SignedColor`).

`color_of_text_iff` says that there are no more, and which color each of them gives.
-/

namespace Plotline

open Script Numeral Json.Token

namespace Script

/-! ## Texts of colors -/

/-- The character is a digit in base sixteen, in either case, with the given value. -/
def HexDigit (c : Char) (d : Nat) : Prop :=
  "0123456789abcdef".toList[d]? = some c ∨ "0123456789ABCDEF".toList[d]? = some c

/-- The text is a hash and two digits each for red, green and blue. -/
inductive SpellsColor : String → Nat → Nat → Nat → Prop
  | intro {cs : List Char} {r₁ r₂ g₁ g₂ b₁ b₂ : Nat}
      (digits : List.Forall₂ HexDigit cs [r₁, r₂, g₁, g₂, b₁, b₂]) :
      SpellsColor (.ofList ('#' :: cs)) (16 * r₁ + r₂) (16 * g₁ + g₂) (16 * b₁ + b₂)

/-- The text has a sign in place of the first digit. -/
inductive SignedColor : String → Nat → Nat → Nat → Prop
  | plus {cs : List Char} {r g₁ g₂ b₁ b₂ : Nat}
      (digits : List.Forall₂ HexDigit cs [r, g₁, g₂, b₁, b₂]) :
      SignedColor (.ofList ('#' :: '+' :: cs)) r (16 * g₁ + g₂) (16 * b₁ + b₂)
  | minus : SignedColor "#-00000" 0 0 0

/-! ## Digits -/

theorem hexDigit?_eq_some_iff {c : Char} {d : Nat} : hexDigit? c = some d ↔ HexDigit c d := by
  constructor
  · intro h
    have htable : ∀ n < 0x67, ∀ e ∈ hexDigit? (Char.ofNat n), HexDigit (Char.ofNat n) e := by
      unfold HexDigit
      decide
    have hsmall : c.toNat < 0x67 := by
      simp only [hexDigit?] at h
      split_ifs at h <;> omega
    have hdigit := htable c.toNat hsmall d
    rw [Char.ofNat_toNat] at hdigit
    exact hdigit h
  · have hlower : ∀ e < 16, "0123456789abcdef".toList[e]?.bind hexDigit? = some e := by decide
    have hupper : ∀ e < 16, "0123456789ABCDEF".toList[e]?.bind hexDigit? = some e := by decide
    rintro (h | h)
    · have hdigit := hlower d (List.getElem?_eq_some_iff.mp h).1
      rwa [h] at hdigit
    · have hdigit := hupper d (List.getElem?_eq_some_iff.mp h).1
      rwa [h] at hdigit

theorem HexDigit.lt {c : Char} {d : Nat} (h : HexDigit c d) : d < 16 := by
  rcases h with h | h <;> exact (List.getElem?_eq_some_iff.mp h).1

theorem HexDigit.toNat_lt {c : Char} {d : Nat} (h : HexDigit c d) : c.toNat < 128 := by
  have hvalue := hexDigit?_eq_some_iff.mpr h
  simp only [hexDigit?] at hvalue
  split_ifs at hvalue <;> omega

theorem HexDigit.eq_zero {c : Char} (h : HexDigit c 0) : c = '0' := by
  rcases h with h | h <;> exact (Option.some.inj h).symm

theorem not_hexDigit {c : Char} (h : hexDigit? c = none) (d : Nat) : ¬ HexDigit c d := by
  rw [← hexDigit?_eq_some_iff, h]
  exact (Option.some_ne_none d).symm

theorem mapM_hexDigit?_eq_some_iff {cs : List Char} {ds : List Nat} :
    cs.mapM hexDigit? = some ds ↔ List.Forall₂ HexDigit cs ds := by
  induction cs generalizing ds with
  | nil => simp [eq_comm]
  | cons c cs ih =>
    rw [List.mapM_cons]
    cases ds with
    | nil => simp [Option.bind_eq_some_iff]
    | cons d ds => simp [Option.bind_eq_some_iff, hexDigit?_eq_some_iff, ih]

/-- Characters below 128 take one byte each. -/
theorem utf8ByteSize_ofList {cs : List Char} (h : ∀ c ∈ cs, c.toNat < 128) :
    (String.ofList cs).utf8ByteSize = cs.length := by
  induction cs with
  | nil => rfl
  | cons c cs ih =>
    obtain ⟨hc, hcs⟩ := List.forall_mem_cons.mp h
    have hsize : c.utf8Size = 1 := Char.utf8Size_eq_one_iff.mpr (Nat.le_of_lt_succ hc)
    rw [String.ofList_cons, String.utf8ByteSize_append, String.utf8ByteSize_singleton, ih hcs,
      hsize, List.length_cons, Nat.add_comm]

/-! ## Numerals -/

/-- The number with the given digits in base sixteen. -/
def hexValue (ds : List Nat) : Nat := ds.foldl (fun n d => 16 * n + d) 0

/-- Six digits, as red, green and blue. -/
theorem hexValue_six (r₁ r₂ g₁ g₂ b₁ b₂ : Nat) :
    hexValue [r₁, r₂, g₁, g₂, b₁, b₂] =
      (16 * r₁ + r₂) * 65536 + (16 * g₁ + g₂) * 256 + (16 * b₁ + b₂) := by
  simp only [hexValue, List.foldl_cons, List.foldl_nil]
  omega

theorem hexValue_five (r g₁ g₂ b₁ b₂ : Nat) :
    hexValue [r, g₁, g₂, b₁, b₂] = r * 65536 + (16 * g₁ + g₂) * 256 + (16 * b₁ + b₂) := by
  simp only [hexValue, List.foldl_cons, List.foldl_nil]
  omega

theorem hexNumeral?_of_sign {cs ds : List Char} {negative : Bool} {n : Int}
    (h : Decimal.sign cs = (negative, ds)) :
    hexNumeral? cs = some n ↔ ds ≠ [] ∧ ∃ values, List.Forall₂ HexDigit ds values ∧
      (if negative then -(hexValue values : Int) else hexValue values) = n := by
  rw [hexNumeral?, h]
  by_cases hds : ds = []
  · simp [hds]
  · simp [hds, Option.bind_eq_some_iff, mapM_hexDigit?_eq_some_iff, hexValue]

theorem sign_cases (cs : List Char) :
    Decimal.sign cs = (false, cs) ∨ (∃ ds, cs = '+' :: ds ∧ Decimal.sign cs = (false, ds)) ∨
      ∃ ds, cs = '-' :: ds ∧ Decimal.sign cs = (true, ds) := by
  fun_cases Decimal.sign cs with
  | case1 ds => exact Or.inr (Or.inr ⟨ds, rfl, rfl⟩)
  | case2 ds => exact Or.inr (Or.inl ⟨ds, rfl, rfl⟩)
  | case3 => exact Or.inl rfl

theorem sign_of_digits {cs : List Char} {values : List Nat}
    (h : List.Forall₂ HexDigit cs values) : Decimal.sign cs = (false, cs) := by
  rcases sign_cases cs with hsign | ⟨ds, rfl, -⟩ | ⟨ds, rfl, -⟩
  · exact hsign
  · obtain ⟨d, _, hd, -⟩ := List.forall₂_cons_left_iff.mp h
    exact absurd hd (not_hexDigit rfl d)
  · obtain ⟨d, _, hd, -⟩ := List.forall₂_cons_left_iff.mp h
    exact absurd hd (not_hexDigit rfl d)

/-- A numeral is a row of digits, or a sign and a row of digits. -/
theorem hexNumeral?_eq_some_iff {cs : List Char} {n : Int} :
    hexNumeral? cs = some n ↔ ∃ ds values, List.Forall₂ HexDigit ds values ∧ ds ≠ [] ∧
      (cs = ds ∧ n = hexValue values ∨ cs = '+' :: ds ∧ n = hexValue values ∨
        cs = '-' :: ds ∧ n = -hexValue values) := by
  constructor
  · intro h
    rcases sign_cases cs with hsign | ⟨ds, hcs, hsign⟩ | ⟨ds, hcs, hsign⟩
    · obtain ⟨hds, values, hdigits, hn⟩ := (hexNumeral?_of_sign hsign).mp h
      exact ⟨cs, values, hdigits, hds, Or.inl ⟨rfl, hn.symm⟩⟩
    · obtain ⟨hds, values, hdigits, hn⟩ := (hexNumeral?_of_sign hsign).mp h
      exact ⟨ds, values, hdigits, hds, Or.inr (Or.inl ⟨hcs, hn.symm⟩)⟩
    · obtain ⟨hds, values, hdigits, hn⟩ := (hexNumeral?_of_sign hsign).mp h
      exact ⟨ds, values, hdigits, hds, Or.inr (Or.inr ⟨hcs, hn.symm⟩)⟩
  · rintro ⟨ds, values, hdigits, hds, ⟨rfl, rfl⟩ | ⟨rfl, rfl⟩ | ⟨rfl, rfl⟩⟩
    · exact (hexNumeral?_of_sign (sign_of_digits hdigits)).mpr ⟨hds, values, hdigits, rfl⟩
    · exact (hexNumeral?_of_sign rfl).mpr ⟨hds, values, hdigits, rfl⟩
    · exact (hexNumeral?_of_sign rfl).mpr ⟨hds, values, hdigits, rfl⟩

/-! ## Reading a color -/

theorem textColor?_eq_some_iff {s : String} {n : Int} :
    textColor? s = some n ↔ ∃ cs, s = .ofList ('#' :: cs) ∧
      (String.ofList cs).utf8ByteSize = 6 ∧ hexNumeral? cs = some n := by
  constructor
  · intro h
    rw [textColor?] at h
    split at h
    · rename_i cs hcs
      split at h
      · rename_i hsize
        exact ⟨cs, by rw [← hcs, String.ofList_toList], hsize, h⟩
      · cases h
    · cases h
  · rintro ⟨cs, rfl, hsize, hn⟩
    rw [textColor?, String.toList_ofList]
    exact (if_pos hsize).trans hn

theorem toNat_lt_of_digits {cs : List Char} {ds : List Nat} (h : List.Forall₂ HexDigit cs ds) :
    ∀ c ∈ cs, c.toNat < 128 := by
  induction h with
  | nil => simp
  | cons hd _ ih => exact List.forall_mem_cons.mpr ⟨hd.toNat_lt, ih⟩

theorem lt_of_digits {cs : List Char} {ds : List Nat} (h : List.Forall₂ HexDigit cs ds) :
    ∀ d ∈ ds, d < 16 := by
  induction h with
  | nil => simp
  | cons hd _ ih => exact List.forall_mem_cons.mpr ⟨hd.lt, ih⟩

/-- Digits take one byte each, and so does a sign in front of them. -/
theorem utf8ByteSize_digits {cs : List Char} {ds : List Nat} (h : List.Forall₂ HexDigit cs ds) :
    (String.ofList cs).utf8ByteSize = ds.length ∧
      (String.ofList ('+' :: cs)).utf8ByteSize = ds.length + 1 ∧
      (String.ofList ('-' :: cs)).utf8ByteSize = ds.length + 1 := by
  have hcs := toNat_lt_of_digits h
  rw [← h.length_eq]
  exact ⟨utf8ByteSize_ofList hcs,
    utf8ByteSize_ofList (List.forall_mem_cons.mpr ⟨by decide, hcs⟩),
    utf8ByteSize_ofList (List.forall_mem_cons.mpr ⟨by decide, hcs⟩)⟩

theorem ne_nil_of_digits {cs : List Char} {d : Nat} {ds : List Nat}
    (h : List.Forall₂ HexDigit cs (d :: ds)) : cs ≠ [] := by
  rintro rfl
  cases h

theorem SpellsColor.textColor?_eq {s : String} {r g b : Nat} (h : SpellsColor s r g b) :
    textColor? s = some (r * 65536 + g * 256 + b) := by
  obtain ⟨hdigits⟩ := h
  refine textColor?_eq_some_iff.mpr ⟨_, rfl, (utf8ByteSize_digits hdigits).1, ?_⟩
  refine hexNumeral?_eq_some_iff.mpr ⟨_, _, hdigits, ne_nil_of_digits hdigits, Or.inl ⟨rfl, ?_⟩⟩
  rw [hexValue_six]

theorem SignedColor.textColor?_eq {s : String} {r g b : Nat} (h : SignedColor s r g b) :
    textColor? s = some (r * 65536 + g * 256 + b) := by
  cases h with
  | plus hdigits =>
    refine textColor?_eq_some_iff.mpr ⟨_, rfl, (utf8ByteSize_digits hdigits).2.1, ?_⟩
    refine hexNumeral?_eq_some_iff.mpr
      ⟨_, _, hdigits, ne_nil_of_digits hdigits, Or.inr (Or.inl ⟨rfl, ?_⟩)⟩
    rw [hexValue_five]
  | minus => rfl

theorem eq_of_length_five {ds : List Nat} (h : ds.length = 5) :
    ∃ d₁ d₂ d₃ d₄ d₅, ds = [d₁, d₂, d₃, d₄, d₅] := by
  rcases ds with _ | ⟨d₁, _ | ⟨d₂, _ | ⟨d₃, _ | ⟨d₄, _ | ⟨d₅, _ | _⟩⟩⟩⟩⟩ <;> simp at h
  exact ⟨d₁, d₂, d₃, d₄, d₅, rfl⟩

theorem eq_replicate_of_zeros {cs : List Char} {n : Nat}
    (h : List.Forall₂ HexDigit cs (List.replicate n 0)) : cs = List.replicate n '0' := by
  induction n generalizing cs with
  | zero => simpa using h
  | succ n ih =>
    obtain ⟨c, cs', hc, hcs', rfl⟩ := List.forall₂_cons_right_iff.mp h
    rw [hc.eq_zero, ih hcs', List.replicate_succ]

/-- There are no other texts of numbers that are not negative. -/
theorem spells_or_signed {s : String} {n : Int} (h : textColor? s = some n) (hn : 0 ≤ n) :
    ∃ r g b, SpellsColor s r g b ∨ SignedColor s r g b := by
  obtain ⟨cs, rfl, hsize, hnumeral⟩ := textColor?_eq_some_iff.mp h
  obtain ⟨ds, values, hdigits, -, hforms⟩ := hexNumeral?_eq_some_iff.mp hnumeral
  obtain ⟨hplain, hplus, hminus⟩ := utf8ByteSize_digits hdigits
  rcases hforms with ⟨rfl, -⟩ | ⟨rfl, -⟩ | ⟨rfl, rfl⟩
  · obtain ⟨r₁, rest, rfl⟩ := List.exists_cons_of_length_eq_add_one (hplain.symm.trans hsize)
    obtain ⟨r₂, g₁, g₂, b₁, b₂, rfl⟩ :=
      eq_of_length_five (Nat.succ.inj (hplain.symm.trans hsize))
    exact ⟨_, _, _, Or.inl ⟨hdigits⟩⟩
  · obtain ⟨r, g₁, g₂, b₁, b₂, rfl⟩ := eq_of_length_five (Nat.succ.inj (hplus.symm.trans hsize))
    exact ⟨_, _, _, Or.inr (.plus hdigits)⟩
  · obtain ⟨r, g₁, g₂, b₁, b₂, rfl⟩ := eq_of_length_five (Nat.succ.inj (hminus.symm.trans hsize))
    rw [hexValue_five] at hn
    -- behind a minus only zeros give a number that is not negative
    obtain ⟨rfl, rfl, rfl, rfl, rfl⟩ : r = 0 ∧ g₁ = 0 ∧ g₂ = 0 ∧ b₁ = 0 ∧ b₂ = 0 := by omega
    obtain rfl := eq_replicate_of_zeros (n := 5) hdigits
    exact ⟨0, 0, 0, Or.inr .minus⟩

/-- A sign is no digit. -/
theorem SignedColor.not_spells {s : String} {r g b r' g' b' : Nat} (h : SignedColor s r g b) :
    ¬ SpellsColor s r' g' b' := by
  have hsign : ∃ c cs, s = .ofList ('#' :: c :: cs) ∧ ∀ d, ¬ HexDigit c d := by
    cases h with
    | plus => exact ⟨_, _, rfl, not_hexDigit rfl⟩
    | minus => exact ⟨'-', ['0', '0', '0', '0', '0'], rfl, not_hexDigit rfl⟩
  obtain ⟨c, cs, hs, hc⟩ := hsign
  rintro ⟨hdigits⟩
  obtain ⟨c', _, hd, -, rfl⟩ := List.forall₂_cons_right_iff.mp hdigits
  obtain ⟨-, hc', -⟩ := by simpa only [List.cons.injEq] using String.ofList_inj.mp hs
  exact hc _ (hc' ▸ hd)

theorem SpellsColor.lt {s : String} {r g b : Nat} (h : SpellsColor s r g b) :
    r < 256 ∧ g < 256 ∧ b < 256 := by
  obtain ⟨hdigits⟩ := h
  have hlt := lt_of_digits hdigits
  simp only [List.forall_mem_cons] at hlt
  omega

theorem SignedColor.lt {s : String} {r g b : Nat} (h : SignedColor s r g b) :
    r < 256 ∧ g < 256 ∧ b < 256 := by
  cases h with
  | plus hdigits =>
    have hlt := lt_of_digits hdigits
    simp only [List.forall_mem_cons] at hlt
    omega
  | minus => decide

theorem packedColor_eq_ok_iff {n : Int} {c : Int32} :
    packedColor n = .ok c ↔ (0 ≤ n ∧ n ≤ 2 ^ 24 - 1) ∧ c.toInt = n := by
  have hpow : Int.pow 2 24 = 2 ^ 24 := rfl
  rw [packedColor, hpow]
  split
  · rename_i hrange
    have htoInt : (Int32.ofInt n).toInt = n := Int32.toInt_ofInt_of_le (by omega) (by omega)
    rw [Except.ok.injEq]
    constructor
    · rintro rfl
      exact ⟨by omega, htoInt⟩
    · rintro ⟨-, hc⟩
      exact Int32.toInt_inj.mp (htoInt.trans hc.symm)
  · rename_i hrange
    exact iff_of_false (by simp) (by omega)

/-- The texts that a color can be read from, with the color. -/
theorem color_text_eq_ok_iff {s : String} {c : Int32} :
    color (.text s) = .ok c ↔ ∃ r g b, (SpellsColor s r g b ∨ SignedColor s r g b) ∧
      c.toInt = r * 65536 + g * 256 + b := by
  have hok : color (.text s) = .ok c ↔ ∃ n, textColor? s = some n ∧ packedColor n = .ok c := by
    rw [color]
    cases textColor? s with
    | none => simp
    | some n => simp
  rw [hok]
  constructor
  · rintro ⟨n, hn, hc⟩
    obtain ⟨⟨hlow, -⟩, hc⟩ := packedColor_eq_ok_iff.mp hc
    obtain ⟨r, g, b, hspells⟩ := spells_or_signed hn hlow
    refine ⟨r, g, b, hspells, ?_⟩
    have hvalue := hspells.elim SpellsColor.textColor?_eq SignedColor.textColor?_eq
    rw [hc]
    exact Option.some.inj (hn.symm.trans hvalue)
  · rintro ⟨r, g, b, hspells, hc⟩
    have hvalue := hspells.elim SpellsColor.textColor?_eq SignedColor.textColor?_eq
    refine ⟨_, hvalue, packedColor_eq_ok_iff.mpr ⟨?_, hc⟩⟩
    have hlt := hspells.elim SpellsColor.lt SignedColor.lt
    omega

theorem succeeds_color_text {s : String} :
    Succeeds (color (.text s)) ↔ ∃ r g b, SpellsColor s r g b ∨ SignedColor s r g b := by
  rw [succeeds_color, SettingForm.Admits]
  constructor
  · rintro ⟨n, hn, hlow, -⟩
    exact spells_or_signed hn hlow
  · rintro ⟨r, g, b, hspells⟩
    have hlt := hspells.elim SpellsColor.lt SignedColor.lt
    exact ⟨_, hspells.elim SpellsColor.textColor?_eq SignedColor.textColor?_eq, by omega⟩

theorem applySetting_color_eq_ok_iff {p q : Particle} {value : SettingValue} :
    applySetting p "color" value = .ok q ↔
      ∃ c, color value = .ok c ∧ q = { p with color := some c } := by
  constructor
  · intro h
    obtain ⟨c, hc, hret⟩ := bind_eq_ok h
    cases hret
    exact ⟨c, hc, rfl⟩
  · rintro ⟨c, hc, rfl⟩
    change color value >>= _ = _
    rw [hc]
    rfl

/-- One more setting behind others. -/
theorem particle_concat_eq_ok_iff {name : String} {before : List Setting} {p q : Particle}
    (h : particle name before = .ok p) {x : Setting} :
    particle name (before ++ [x]) = .ok q ↔ applySetting p x.name.name x.value = .ok q := by
  have hlast : particle name (before ++ [x]) =
      blame x.name.span (applySetting p x.name.name x.value) := by
    rw [particle, List.foldlM_append]
    change particle name before >>= _ = _
    rw [h, ok_bind, List.foldlM_cons]
    exact bind_pure _
  rw [hlast]
  constructor
  · exact eq_ok_of_blame
  · intro hq
    rw [hq]
    rfl

end Script

/-- **Colors.** A color that is written as text behind other settings is accepted if and only if it
is a hash and two digits each for red, green and blue, or has a sign in place of the first digit.
Then it is the color of the particle, and no other setting changes. So acceptance follows the
grammar for exactly the texts without such a sign. -/
theorem color_of_text_iff {name : String} {before : List Setting} {p : Particle}
    (h : particle name before = .ok p) (span : Span) (s : String) :
    (∀ q, particle name (before ++ [⟨⟨"color", span⟩, .text s⟩]) = .ok q ↔
        ∃ r g b c, (SpellsColor s r g b ∨ SignedColor s r g b) ∧
          Int32.toInt c = r * 65536 + g * 256 + b ∧ q = { p with color := some c }) ∧
      ((Succeeds (particle name (before ++ [⟨⟨"color", span⟩, .text s⟩])) ↔
          ∃ r g b, SpellsColor s r g b) ↔ ¬ ∃ r g b, SignedColor s r g b) := by
  have hlast : ∀ q, particle name (before ++ [⟨⟨"color", span⟩, .text s⟩]) = .ok q ↔
      ∃ c, color (.text s) = .ok c ∧ q = { p with color := some c } := fun q =>
    (particle_concat_eq_ok_iff h).trans applySetting_color_eq_ok_iff
  constructor
  · intro q
    rw [hlast]
    simp only [color_text_eq_ok_iff]
    constructor
    · rintro ⟨c, ⟨r, g, b, hspells, hc⟩, hq⟩
      exact ⟨r, g, b, c, hspells, hc, hq⟩
    · rintro ⟨r, g, b, c, hspells, hc, hq⟩
      exact ⟨c, ⟨r, g, b, hspells, hc⟩, hq⟩
  · have haccepted : Succeeds (particle name (before ++ [⟨⟨"color", span⟩, .text s⟩])) ↔
        ∃ r g b, SpellsColor s r g b ∨ SignedColor s r g b := by
      rw [← succeeds_color_text]
      constructor
      · rintro ⟨q, hq⟩
        obtain ⟨c, hc, -⟩ := (hlast q).mp hq
        exact ⟨c, hc⟩
      · rintro ⟨c, hc⟩
        exact ⟨_, (hlast _).mpr ⟨c, hc, rfl⟩⟩
    rw [haccepted]
    constructor
    · rintro hgrammar ⟨r, g, b, hsigned⟩
      obtain ⟨r', g', b', hspells⟩ := hgrammar.mp ⟨r, g, b, Or.inr hsigned⟩
      exact hsigned.not_spells hspells
    · intro hunsigned
      constructor
      · rintro ⟨r, g, b, hspells | hsigned⟩
        · exact ⟨r, g, b, hspells⟩
        · exact absurd ⟨r, g, b, hsigned⟩ hunsigned
      · rintro ⟨r, g, b, hspells⟩
        exact ⟨r, g, b, Or.inl hspells⟩

namespace Sample

/-- The setting of a color. -/
def colored (text : String) : Setting := ⟨⟨"color", .unknown⟩, .text text⟩

theorem spells_orange : SpellsColor "#fF8000" 255 128 0 := by
  have hdigits : List.Forall₂ HexDigit ['f', 'F', '8', '0', '0', '0'] [15, 15, 8, 0, 0, 0] :=
    mapM_hexDigit?_eq_some_iff.mp rfl
  exact .intro hdigits

theorem signed_green : SignedColor "#+12345" 0x1 0x23 0x45 := by
  have hdigits : List.Forall₂ HexDigit ['1', '2', '3', '4', '5'] [1, 2, 3, 4, 5] :=
    mapM_hexDigit?_eq_some_iff.mp rfl
  exact .plus hdigits

theorem particle_black : particle "Dust" [colored "#000000"] =
    .ok { name := "Dust", color := some 0 } := by
  rfl

theorem particle_green : particle "Dust" [colored "#+12345"] =
    .ok { name := "Dust", color := some 0x12345 } := by
  rfl

end Sample

/-- A color with digits of both cases takes the place of an earlier one. -/
theorem color_of_text_orange :
    particle "Dust" [Sample.colored "#000000"] = .ok { name := "Dust", color := some 0 } ∧
      particle "Dust" [Sample.colored "#000000", Sample.colored "#fF8000"] =
        .ok { name := "Dust", color := some 0xFF8000 } := by
  have hcolor := (color_of_text_iff Sample.particle_black .unknown "#fF8000").1
  exact ⟨Sample.particle_black,
    (hcolor _).mpr ⟨255, 128, 0, 0xFF8000, Or.inl Sample.spells_orange, rfl, rfl⟩⟩

/-- A text with a sign is accepted although it does not follow the grammar. -/
theorem signed_color_accepted : ¬ ∀ (name : String) (before : List Setting) (p : Particle)
    (span : Span) (s : String), particle name before = .ok p →
    (Succeeds (particle name (before ++ [⟨⟨"color", span⟩, .text s⟩])) ↔
      ∃ r g b, SpellsColor s r g b) := by
  intro hall
  obtain ⟨r, g, b, hspells⟩ :=
    (hall "Dust" [] _ .unknown "#+12345" rfl).mp ⟨_, Sample.particle_green⟩
  exact Sample.signed_green.not_spells hspells

end Plotline
