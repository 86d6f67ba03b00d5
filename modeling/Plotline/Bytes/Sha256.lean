/-!
# Digests

The secure hash of 256 bits of a list of bytes.
-/

namespace Plotline.Sha256

/-- The words of the eight registers. -/
structure Registers where
  a : UInt32
  b : UInt32
  c : UInt32
  d : UInt32
  e : UInt32
  f : UInt32
  g : UInt32
  h : UInt32

namespace Registers

def start : Registers :=
  ⟨0x6a09e667, 0xbb67ae85, 0x3c6ef372, 0xa54ff53a, 0x510e527f, 0x9b05688c, 0x1f83d9ab, 0x5be0cd19⟩

def add (x y : Registers) : Registers :=
  ⟨x.a + y.a, x.b + y.b, x.c + y.c, x.d + y.d, x.e + y.e, x.f + y.f, x.g + y.g, x.h + y.h⟩

def words (r : Registers) : List UInt32 := [r.a, r.b, r.c, r.d, r.e, r.f, r.g, r.h]

end Registers

/-- The constants of the rounds. -/
def constants : List UInt32 :=
  [0x428a2f98, 0x71374491, 0xb5c0fbcf, 0xe9b5dba5, 0x3956c25b, 0x59f111f1, 0x923f82a4, 0xab1c5ed5,
    0xd807aa98, 0x12835b01, 0x243185be, 0x550c7dc3, 0x72be5d74, 0x80deb1fe, 0x9bdc06a7, 0xc19bf174,
    0xe49b69c1, 0xefbe4786, 0x0fc19dc6, 0x240ca1cc, 0x2de92c6f, 0x4a7484aa, 0x5cb0a9dc, 0x76f988da,
    0x983e5152, 0xa831c66d, 0xb00327c8, 0xbf597fc7, 0xc6e00bf3, 0xd5a79147, 0x06ca6351, 0x14292967,
    0x27b70a85, 0x2e1b2138, 0x4d2c6dfc, 0x53380d13, 0x650a7354, 0x766a0abb, 0x81c2c92e, 0x92722c85,
    0xa2bfe8a1, 0xa81a664b, 0xc24b8b70, 0xc76c51a3, 0xd192e819, 0xd6990624, 0xf40e3585, 0x106aa070,
    0x19a4c116, 0x1e376c08, 0x2748774c, 0x34b0bcb5, 0x391c0cb3, 0x4ed8aa4a, 0x5b9cca4f, 0x682e6ff3,
    0x748f82ee, 0x78a5636f, 0x84c87814, 0x8cc70208, 0x90befffa, 0xa4506ceb, 0xbef9a3f7, 0xc67178f2]

def rotate (n : UInt32) (x : UInt32) : UInt32 := (x >>> n) ||| (x <<< (32 - n))

/-- A word as four bytes, the highest first. -/
def wordBytes (x : UInt32) : List UInt8 :=
  [(x >>> 24).toUInt8, (x >>> 16).toUInt8, (x >>> 8).toUInt8, x.toUInt8]

/-- The words that bytes spell, four by four. -/
def bytesWords : List UInt8 → List UInt32
  | a :: b :: c :: d :: rest =>
    ((a.toUInt32 <<< 24) ||| (b.toUInt32 <<< 16) ||| (c.toUInt32 <<< 8) ||| d.toUInt32) ::
      bytesWords rest
  | _ => []

/-- The next word of a schedule, whose words stand in reverse. -/
def nextWord (schedule : List UInt32) : UInt32 :=
  let x := schedule.getD 14 0
  let y := schedule.getD 1 0
  schedule.getD 15 0 + (rotate 7 x ^^^ rotate 18 x ^^^ (x >>> 3)) + schedule.getD 6 0 +
    (rotate 17 y ^^^ rotate 19 y ^^^ (y >>> 10))

/-- A schedule, in reverse, that is `n` words longer. -/
def extended : Nat → List UInt32 → List UInt32
  | 0, schedule => schedule
  | n + 1, schedule => extended n (nextWord schedule :: schedule)

/-- One round with a constant and a word of the schedule. -/
def round (r : Registers) (constant word : UInt32) : Registers :=
  let s := rotate 6 r.e ^^^ rotate 11 r.e ^^^ rotate 25 r.e
  let t := r.h + s + ((r.e &&& r.f) ^^^ ((r.e ^^^ 0xFFFFFFFF) &&& r.g)) + constant + word
  let u := rotate 2 r.a ^^^ rotate 13 r.a ^^^ rotate 22 r.a
  let v := (r.a &&& r.b) ^^^ (r.a &&& r.c) ^^^ (r.b &&& r.c)
  ⟨t + (u + v), r.a, r.b, r.c, r.d + t, r.e, r.f, r.g⟩

/-- The registers after a block of sixteen words. -/
def block (r : Registers) (words : List UInt32) : Registers :=
  let schedule := (extended 48 words.reverse).reverse
  r.add ((constants.zip schedule).foldl (fun r p => round r p.1 p.2) r)

/-- The registers after all full blocks of words. -/
def blocks (r : Registers) (words : List UInt32) : Registers :=
  if words.length < 16 then r else blocks (block r (words.take 16)) (words.drop 16)
termination_by words.length
decreasing_by simp; omega

/-- The bytes, a bit that is one, zeros up to a full block, and the number of bits. -/
def padded (bytes : List UInt8) : List UInt8 :=
  let bits := bytes.length * 8
  bytes ++ [0x80] ++ List.replicate ((119 - bytes.length % 64) % 64) 0 ++
    (List.range 8).map fun i => UInt8.ofNat (bits / Nat.pow 256 (7 - i))

/-- The digest as 32 bytes. -/
def digest (bytes : List UInt8) : List UInt8 :=
  (blocks .start (bytesWords (padded bytes))).words.flatMap wordBytes

end Plotline.Sha256
