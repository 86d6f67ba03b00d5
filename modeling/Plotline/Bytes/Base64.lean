/-!
# Bytes as base 64 text

Three bytes are four digits of six bits. What is left at the end is filled up with zero bits to
whole digits and with `=` to four characters.
-/

namespace Plotline.Base64

/-- The digit for a number below 64. -/
def digit (n : Nat) : Char :=
  if n < 26 then Char.ofNat (65 + n)
  else if n < 52 then Char.ofNat (97 + (n - 26))
  else if n < 62 then Char.ofNat (48 + (n - 52))
  else if n = 62 then '+'
  else '/'

def digit? (c : Char) : Option Nat :=
  if 'A' ≤ c ∧ c ≤ 'Z' then some (c.toNat - 65)
  else if 'a' ≤ c ∧ c ≤ 'z' then some (c.toNat - 97 + 26)
  else if '0' ≤ c ∧ c ≤ '9' then some (c.toNat - 48 + 52)
  else if c = '+' then some 62
  else if c = '/' then some 63
  else none

/-- The text of bytes behind what is written already, which stands in reverse. -/
def encodeBehind (written : List Char) : List UInt8 → List Char
  | a :: b :: c :: rest =>
    let n := a.toNat * 65536 + b.toNat * 256 + c.toNat
    encodeBehind
      (digit (n % 64) :: digit (n / 64 % 64) :: digit (n / 4096 % 64) :: digit (n / 262144) ::
        written)
      rest
  | [a, b] =>
    let n := a.toNat * 1024 + b.toNat * 4
    ('=' :: digit (n % 64) :: digit (n / 64 % 64) :: digit (n / 4096) :: written).reverse
  | [a] =>
    let n := a.toNat * 16
    ('=' :: '=' :: digit (n % 64) :: digit (n / 64) :: written).reverse
  | [] => written.reverse

/-- The text of bytes. -/
def encode (bytes : List UInt8) : String := String.ofList (encodeBehind [] bytes)

/-- The bytes of a text behind those that are read already, which stand in reverse. The bits that
fill up the last digit have to be zero. -/
def decodeBehind? (read : List UInt8) : List Char → Option (List UInt8)
  | [] => some read.reverse
  | [a, b, '=', '='] => do
    let n := (← digit? a) * 64 + (← digit? b)
    if n % 16 = 0 then some (UInt8.ofNat (n / 16) :: read).reverse else none
  | [a, b, c, '='] => do
    let n := (← digit? a) * 4096 + (← digit? b) * 64 + (← digit? c)
    if n % 4 = 0 then some (UInt8.ofNat (n / 4) :: UInt8.ofNat (n / 1024) :: read).reverse
    else none
  | a :: b :: c :: d :: rest => do
    let n := (← digit? a) * 262144 + (← digit? b) * 4096 + (← digit? c) * 64 + (← digit? d)
    decodeBehind? (UInt8.ofNat n :: UInt8.ofNat (n / 256) :: UInt8.ofNat (n / 65536) :: read) rest
  | _ => none

/-- The bytes of a text. -/
def decode? (text : String) : Option (List UInt8) := decodeBehind? [] text.toList

end Plotline.Base64
