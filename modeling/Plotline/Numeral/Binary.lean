/-!
# Binary floating point numbers

A number of a binary interchange format is a sign and a magnitude. The magnitude is the
position of the absolute value in the increasing list of the values of the format, so that
comparing absolute values is comparing natural numbers:

* `0` is zero, `Format.infinity` is infinity, and everything above it is not a number;
* `Format.units` gives the absolute value of a finite magnitude, counted in the least
  positive value `2 ^ -depth` of the format;
* `Format.nearest` goes back from a fraction to the nearest magnitude, where a tie goes to the
  even one.

All arithmetic is exact and on natural numbers.
-/

namespace Plotline.Numeral

/-- A binary interchange format, given by the widths of its two fields. -/
structure Format where
  fractionBits : Nat
  exponentBits : Nat
deriving DecidableEq, Repr

namespace Format

/-- The format of four bytes. -/
def single : Format := ⟨23, 8⟩

/-- The format of eight bytes. -/
def double : Format := ⟨52, 11⟩

/-- The least positive value of the format is `2 ^ -depth`. -/
def depth (f : Format) : Nat := Nat.pow 2 (f.exponentBits - 1) - 2 + f.fractionBits

/-- The magnitude of infinity: every smaller magnitude is finite. -/
def infinity (f : Format) : Nat := (Nat.pow 2 f.exponentBits - 1) * Nat.pow 2 f.fractionBits

/-- The absolute value of a finite magnitude as a multiple of `2 ^ -depth`. -/
def units (f : Format) (magnitude : Nat) : Nat :=
  let exponent := magnitude / Nat.pow 2 f.fractionBits
  let fraction := magnitude % Nat.pow 2 f.fractionBits
  if exponent = 0 then fraction
  else (Nat.pow 2 f.fractionBits + fraction) * Nat.pow 2 (exponent - 1)

/-- The whole number nearest to `n / d`; a tie goes to the even one. -/
def divideToEven (n d : Nat) : Nat :=
  let q := n / d
  let r := n % d
  if d < 2 * r ∨ (d = 2 * r ∧ q % 2 = 1) then q + 1 else q

/-- The magnitude nearest to `n / d`; a tie goes to the even one, and what is too large
becomes infinity. -/
def nearest (f : Format) (n d : Nat) : Nat :=
  let scaled := n * Nat.pow 2 f.depth
  let shift := (scaled / d).log2 - f.fractionBits
  min (shift * Nat.pow 2 f.fractionBits + divideToEven scaled (d * Nat.pow 2 shift)) f.infinity

end Format

/-- A floating point number of the format `f`. -/
structure Binary (f : Format) where
  negative : Bool
  magnitude : Nat
deriving DecidableEq, Repr

/-- Numbers of values and instructions. -/
abbrev Single := Binary .single

/-- Numbers of scripts and documents. -/
abbrev Double := Binary .double

namespace Binary

variable {f g : Format}

instance : Inhabited (Binary f) := ⟨⟨false, 0⟩⟩

/-- Positive zero. -/
def zero : Binary f := ⟨false, 0⟩

def isFinite (x : Binary f) : Bool := x.magnitude < f.infinity

def isInfinite (x : Binary f) : Bool := x.magnitude = f.infinity

/-- The fraction `n / d` with the given sign, rounded. -/
def ofFraction (negative : Bool) (n d : Nat) : Binary f := ⟨negative, f.nearest n d⟩

/-- A whole number, rounded. -/
def ofInt (n : Int) : Binary f := ofFraction (n < 0) n.natAbs 1

/-- The same number in another format, rounded. Infinity stays infinity, and what is not a
number stays none. -/
def convert (x : Binary f) : Binary g :=
  if x.isFinite then ofFraction x.negative (f.units x.magnitude) (Nat.pow 2 f.depth)
  else ⟨x.negative, g.infinity + (x.magnitude - f.infinity)⟩

/-- The value of a finite number without a fractional part, if it is one. -/
def toInt? (x : Binary f) : Option Int :=
  let units := f.units x.magnitude
  if x.isFinite ∧ units % Nat.pow 2 f.depth = 0 then
    let n : Int := units / Nat.pow 2 f.depth
    some (if x.negative then -n else n)
  else none

/-- The largest finite number of the format. -/
def largest : Binary f := ⟨false, f.infinity - 1⟩

end Binary

end Plotline.Numeral
