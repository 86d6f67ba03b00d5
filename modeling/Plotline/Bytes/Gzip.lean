import Plotline.Bytes.Crc32
import Plotline.Bytes.Inflate

/-!
# Compressed members

A member is a header, deflated bytes, and a checksum and the length of what they stand for.
Members are written with plain blocks. When one is read, optional fields of its header are
skipped and what follows it is ignored.
-/

namespace Plotline.Gzip

open Bits

/-! ## Writing -/

/-- The largest number of bytes in a plain block. -/
def blockSize : Nat := 65535

/-- A plain block. -/
def plainBlock (last : Bool) (bytes : List UInt8) : List UInt8 :=
  (if last then 1 else 0) ::
    (numberBytes 2 bytes.length ++ numberBytes 2 (blockSize - bytes.length) ++ bytes)

/-- The bytes in plain blocks. -/
def deflated (bytes : List UInt8) : List UInt8 :=
  if bytes.length ≤ blockSize then plainBlock true bytes
  else plainBlock false (bytes.take blockSize) ++ deflated (bytes.drop blockSize)
termination_by bytes.length
decreasing_by simp [blockSize] at *; omega

/-- A member that holds the bytes. -/
def compress (bytes : List UInt8) : List UInt8 :=
  [0x1F, 0x8B, 8, 0, 0, 0, 0, 0, 0, 0xFF] ++ deflated bytes ++
    numberBytes 4 (Crc32.checksum bytes).toNat ++ numberBytes 4 bytes.length

/-! ## Reading -/

/-- The largest number of bytes in a text of a header. -/
def textLimit : Nat := 65535

/-- What follows a text that ends with a zero byte. -/
def skipText? (bytes : List UInt8) : Option (List UInt8) :=
  match (bytes.take (textLimit + 1)).dropWhile (· ≠ 0) with
  | [] => none
  | _ :: rest => some (rest ++ bytes.drop (textLimit + 1))

/-- What follows an optional field of the header. -/
def skipIf? (present : Bool) (skip : List UInt8 → Option (List UInt8)) (bytes : List UInt8) :
    Option (List UInt8) :=
  if present then skip bytes else some bytes

/-- What follows a field that starts with its length. -/
def skipSized? : List UInt8 → Option (List UInt8)
  | a :: b :: rest =>
    let n := bytesNumber [a, b]
    if n ≤ rest.length then some (rest.drop n) else none
  | _ => none

/-- What follows the checksum of the header, which is the low half of that of all bytes before it
in `whole`. -/
def skipChecksum? (whole : List UInt8) : List UInt8 → Option (List UInt8)
  | a :: b :: rest =>
    let header := whole.take (whole.length - (rest.length + 2))
    if bytesNumber [a, b] = (Crc32.checksum header).toNat % 65536 then some rest else none
  | _ => none

/-- What follows the header. -/
def body? (bytes : List UInt8) : Option (List UInt8) :=
  match bytes with
  | 0x1F :: 0x8B :: 8 :: flags :: _ :: _ :: _ :: _ :: _ :: _ :: rest => do
    let flag (n : Nat) : Bool := flags.toNat.testBit n
    if 32 ≤ flags.toNat then none
    else
      let rest ← skipIf? (flag 2) skipSized? rest
      let rest ← skipIf? (flag 3) skipText? rest
      let rest ← skipIf? (flag 4) skipText? rest
      skipIf? (flag 1) (skipChecksum? bytes) rest
  | _ => none

/-- The bytes that the first member holds. -/
def decompress? (bytes : List UInt8) : Option (List UInt8) := do
  let body ← body? bytes
  let (content, rest) ← Inflate.inflate? (ofBytes body)
  let (checksum, rest) ← bytes? 4 (aligned rest)
  let (length, _) ← bytes? 4 rest
  if bytesNumber checksum = (Crc32.checksum content).toNat ∧
      bytesNumber length = content.length % Nat.pow 2 32 then
    some content
  else none

end Plotline.Gzip
