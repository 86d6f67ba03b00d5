/-!
# Bytes as bits

Bytes are read bit by bit, the lowest bit of a byte first. Numbers start with their lowest bit or
byte.
-/

namespace Plotline.Bits

def ofByte (b : UInt8) : List Bool := (List.range 8).map b.toNat.testBit

def ofBytes (bytes : List UInt8) : List Bool := bytes.flatMap ofByte

/-- A number of `n` bits, and the bits behind it. -/
def number? : Nat → List Bool → Option (Nat × List Bool)
  | 0, bits => some (0, bits)
  | _ + 1, [] => none
  | n + 1, b :: bits => (number? n bits).map fun (high, rest) => (2 * high + b.toNat, rest)

/-- `n` bytes behind those that are read already, which stand in reverse, and the bits behind
them. -/
def bytesBehind? (read : List UInt8) : Nat → List Bool → Option (List UInt8 × List Bool)
  | 0, bits => some (read.reverse, bits)
  | n + 1, bits =>
    match number? 8 bits with
    | some (b, bits) => bytesBehind? (UInt8.ofNat b :: read) n bits
    | none => none

/-- `n` bytes, and the bits behind them. -/
def bytes? (n : Nat) (bits : List Bool) : Option (List UInt8 × List Bool) := bytesBehind? [] n bits

/-- The bits from the next whole byte on. -/
def aligned (bits : List Bool) : List Bool := bits.drop (bits.length % 8)

/-- A number as `n` bytes. -/
def numberBytes : Nat → Nat → List UInt8
  | 0, _ => []
  | n + 1, k => UInt8.ofNat k :: numberBytes n (k / 256)

/-- The number that bytes spell. -/
def bytesNumber : List UInt8 → Nat
  | [] => 0
  | b :: bs => b.toNat + 256 * bytesNumber bs

end Plotline.Bits
