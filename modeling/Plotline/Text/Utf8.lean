/-!
# UTF-8

Reading bytes as text. `Utf8.decode` reads one character after the other; when it cannot, the
error says where the text stops being well formed and how many bytes are to blame, or that the
bytes end in the middle of a character.
-/

namespace Plotline.Text.Utf8

/-- Why bytes are no text. `index` is the number of bytes read before the fault. -/
inductive Error
  | invalid (index length : Nat)
  | incomplete (index : Nat)
deriving DecidableEq, Repr

def Error.message : Error → String
  | .invalid index length =>
    "invalid utf-8 sequence of " ++ toString length ++ " bytes from index " ++ toString index
  | .incomplete index => "incomplete utf-8 byte sequence from index " ++ toString index

/-- What the first byte of a character says: the bits it carries, how many bytes follow, and
the range of the first of them. -/
structure Lead where
  bits : Nat
  follow : Nat
  low : Nat
  high : Nat

/-- The first bytes a character of several bytes can have. -/
def lead? (b : Nat) : Option Lead :=
  if 0xC2 ≤ b ∧ b ≤ 0xDF then some ⟨b - 0xC0, 1, 0x80, 0xBF⟩
  else if b = 0xE0 then some ⟨0, 2, 0xA0, 0xBF⟩
  else if b = 0xED then some ⟨0xD, 2, 0x80, 0x9F⟩
  else if 0xE1 ≤ b ∧ b ≤ 0xEF then some ⟨b - 0xE0, 2, 0x80, 0xBF⟩
  else if b = 0xF0 then some ⟨0, 3, 0x90, 0xBF⟩
  else if 0xF1 ≤ b ∧ b ≤ 0xF3 then some ⟨b - 0xF0, 3, 0x80, 0xBF⟩
  else if b = 0xF4 then some ⟨4, 3, 0x80, 0x8F⟩
  else none

/-- A character that has begun: the bits so far, how many bytes are still to come with the range
of the next one, and how many bytes there were. -/
structure Pending where
  bits : Nat
  follow : Nat
  low : Nat
  high : Nat
  length : Nat

/-- Reads bytes at `index`, possibly in the middle of a character; `read` holds the characters
so far, last one first. -/
def decodeFrom (index : Nat) (read : List Char) : Option Pending → List UInt8 → Except Error String
  | none, [] => .ok (String.ofList read.reverse)
  | some _, [] => .error (.incomplete index)
  | none, b :: bs =>
    let n := b.toNat
    if n < 0x80 then decodeFrom (index + 1) (Char.ofNat n :: read) none bs
    else match lead? n with
      | some l => decodeFrom index read (some ⟨l.bits, l.follow, l.low, l.high, 1⟩) bs
      | none => .error (.invalid index 1)
  | some p, b :: bs =>
    let n := b.toNat
    if p.low ≤ n ∧ n ≤ p.high then
      let bits := p.bits * 64 + (n - 0x80)
      if p.follow ≤ 1 then decodeFrom (index + p.length + 1) (Char.ofNat bits :: read) none bs
      else decodeFrom index read (some ⟨bits, p.follow - 1, 0x80, 0xBF, p.length + 1⟩) bs
    else .error (.invalid index p.length)

/-- The text that the bytes spell. -/
def decode (bytes : List UInt8) : Except Error String := decodeFrom 0 [] none bytes

/-- The bytes of a text. -/
def encode (s : String) : List UInt8 := s.toUTF8.toList

end Plotline.Text.Utf8
