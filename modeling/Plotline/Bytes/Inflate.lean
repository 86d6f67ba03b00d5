import Plotline.Bytes.Bits
import Plotline.Bytes.CodeTree

/-!
# Inflating bytes

Reads the deflate format: blocks of plain bytes, or of codewords that stand for a byte or for the
repetition of bytes that came before. A repetition that reaches back over the first byte finds
zeros there.

Each codeword and each block takes at least one bit, so the number of bits bounds the number of
steps.
-/

namespace Plotline.Inflate

open Bits

/-! ## Repetitions -/

/-- The smallest length or distance of a symbol, and the number of bits that are added to it. -/
structure Range where
  base : Nat
  extra : Nat

def lengthRanges : List Range :=
  [⟨3, 0⟩, ⟨4, 0⟩, ⟨5, 0⟩, ⟨6, 0⟩, ⟨7, 0⟩, ⟨8, 0⟩, ⟨9, 0⟩, ⟨10, 0⟩, ⟨11, 1⟩, ⟨13, 1⟩, ⟨15, 1⟩,
    ⟨17, 1⟩, ⟨19, 2⟩, ⟨23, 2⟩, ⟨27, 2⟩, ⟨31, 2⟩, ⟨35, 3⟩, ⟨43, 3⟩, ⟨51, 3⟩, ⟨59, 3⟩, ⟨67, 4⟩,
    ⟨83, 4⟩, ⟨99, 4⟩, ⟨115, 4⟩, ⟨131, 5⟩, ⟨163, 5⟩, ⟨195, 5⟩, ⟨227, 5⟩, ⟨258, 0⟩]

def distanceRanges : List Range :=
  [⟨1, 0⟩, ⟨2, 0⟩, ⟨3, 0⟩, ⟨4, 0⟩, ⟨5, 1⟩, ⟨7, 1⟩, ⟨9, 2⟩, ⟨13, 2⟩, ⟨17, 3⟩, ⟨25, 3⟩, ⟨33, 4⟩,
    ⟨49, 4⟩, ⟨65, 5⟩, ⟨97, 5⟩, ⟨129, 6⟩, ⟨193, 6⟩, ⟨257, 7⟩, ⟨385, 7⟩, ⟨513, 8⟩, ⟨769, 8⟩,
    ⟨1025, 9⟩, ⟨1537, 9⟩, ⟨2049, 10⟩, ⟨3073, 10⟩, ⟨4097, 11⟩, ⟨6145, 11⟩, ⟨8193, 12⟩,
    ⟨12289, 12⟩, ⟨16385, 13⟩, ⟨24577, 13⟩]

/-- A number of the range that a symbol stands for. -/
def inRange? (ranges : List Range) (symbol : Nat) (bits : List Bool) :
    Option (Nat × List Bool) := do
  let r ← ranges[symbol]?
  let (n, bits) ← number? r.extra bits
  return (r.base + n, bits)

/-- The byte that stands `distance` bytes before the end. Before the first byte there are only
zeros. -/
def byteBefore (distance : Nat) (out : Array UInt8) : UInt8 :=
  if distance ≤ out.size then out.getD (out.size - distance) 0 else 0

/-- Repeats the bytes that start `distance` bytes before the end. -/
def repeatBytes (distance : Nat) : Nat → Array UInt8 → Array UInt8
  | 0, out => out
  | n + 1, out => repeatBytes distance n (out.push (byteBefore distance out))

/-! ## Blocks of codewords -/

/-- The codes of a block. -/
structure Codes where
  literals : CodeTree
  distances : CodeTree

/-- The rest of a block of at most `steps` codewords. -/
def codewords? (codes : Codes) : Nat → Array UInt8 → List Bool → Option (Array UInt8 × List Bool)
  | 0, _, _ => none
  | steps + 1, out, bits =>
    match codes.literals.symbol? bits with
    | none => none
    | some (symbol, bits) =>
      if symbol < 256 then codewords? codes steps (out.push (UInt8.ofNat symbol)) bits
      else if symbol = 256 then some (out, bits)
      else
        match inRange? lengthRanges (symbol - 257) bits with
        | none => none
        | some (length, bits) =>
          match codes.distances.symbol? bits with
          | none => none
          | some (symbol, bits) =>
            match inRange? distanceRanges symbol bits with
            | none => none
            | some (distance, bits) =>
              codewords? codes steps (repeatBytes distance length out) bits

/-- The codes of a block that describes none. -/
def standardCodes? : Option Codes := do
  let literals ← CodeTree.ofLengths? true
    (List.replicate 144 8 ++ List.replicate 112 9 ++ List.replicate 24 7 ++ List.replicate 8 8)
  let distances ← CodeTree.ofLengths? true (List.replicate 32 5)
  return { literals, distances }

/-- The order in which the lengths of the code of lengths are written. -/
def lengthOrder : List Nat := [16, 17, 18, 0, 8, 7, 9, 6, 10, 5, 11, 4, 12, 3, 13, 2, 14, 1, 15]

/-- `n` numbers of three bits. -/
def smallNumbers? : Nat → List Bool → Option (List Nat × List Bool)
  | 0, bits => some ([], bits)
  | n + 1, bits => do
    let (k, bits) ← number? 3 bits
    let (ks, rest) ← smallNumbers? n bits
    return (k :: ks, rest)

/-- The lengths of a code of lengths. -/
def orderedLengths (numbers : List Nat) : List Nat :=
  (List.range 19).map fun symbol =>
    ((lengthOrder.zip numbers).find? fun p => p.1 = symbol).elim 0 Prod.snd

/-- Lengths until there are `count` of them, behind those in `read`, which stand in reverse. At
most `steps` codewords are read. -/
def lengths? (tree : CodeTree) (count : Nat) :
    Nat → List Nat → List Bool → Option (List Nat × List Bool)
  | 0, _, _ => none
  | steps + 1, read, bits =>
    if read.length = count then some (read.reverse, bits)
    else if count < read.length then none
    else do
      let (symbol, bits) ← tree.symbol? bits
      if symbol < 16 then lengths? tree count steps (symbol :: read) bits
      else if symbol = 16 then
        let last ← read.head?
        let (n, bits) ← number? 2 bits
        lengths? tree count steps (List.replicate (n + 3) last ++ read) bits
      else
        let (n, bits) ← if symbol = 17 then number? 3 bits else number? 7 bits
        let zeros := List.replicate (if symbol = 17 then n + 3 else n + 11) 0
        lengths? tree count steps (zeros ++ read) bits

/-- The codes that a block describes. -/
def codes? (bits : List Bool) : Option (Codes × List Bool) := do
  let (n, bits) ← number? 5 bits
  let (m, bits) ← number? 5 bits
  let (k, bits) ← number? 4 bits
  if 286 < n + 257 ∨ 30 < m + 1 then none
  else
    let (numbers, bits) ← smallNumbers? (k + 4) bits
    let tree ← CodeTree.ofLengths? false (orderedLengths numbers)
    let count := n + 257 + m + 1
    let (lengths, bits) ← lengths? tree count (count + 1) [] bits
    let literals ← CodeTree.ofLengths? true (lengths.take (n + 257))
    let distances ← CodeTree.ofLengths? true (lengths.drop (n + 257))
    return ({ literals, distances }, bits)

/-! ## Blocks -/

/-- A block of plain bytes: their number, its complement, the bytes. -/
def plainBlock? (out : Array UInt8) (bits : List Bool) : Option (Array UInt8 × List Bool) := do
  let (length, bits) ← number? 16 (aligned bits)
  let (complement, bits) ← number? 16 bits
  if length + complement = 65535 then
    let (bytes, bits) ← bytes? length bits
    return (out.appendList bytes, bits)
  else none

/-- The content of a block of the given kind. -/
def block? (kind : Nat) (out : Array UInt8) (bits : List Bool) :
    Option (Array UInt8 × List Bool) :=
  match kind with
  | 0 => plainBlock? out bits
  | 1 => do
    let codes ← standardCodes?
    codewords? codes bits.length out bits
  | 2 => do
    let (codes, bits) ← codes? bits
    codewords? codes bits.length out bits
  | _ => none

/-- At most `steps` blocks, up to the last one. -/
def blocks? : Nat → Array UInt8 → List Bool → Option (Array UInt8 × List Bool)
  | 0, _, _ => none
  | steps + 1, out, bits =>
    match bits with
    | [] => none
    | last :: bits =>
      match (number? 2 bits).bind fun (kind, bits) => block? kind out bits with
      | none => none
      | some (out, bits) => if last then some (out, bits) else blocks? steps out bits

/-- The bytes that deflated bits stand for, and the bits behind the last block. -/
def inflate? (bits : List Bool) : Option (List UInt8 × List Bool) :=
  (blocks? bits.length #[] bits).map fun (out, rest) => (out.toList, rest)

end Plotline.Inflate
