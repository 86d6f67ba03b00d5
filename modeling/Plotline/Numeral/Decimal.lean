import Plotline.Numeral.Binary

/-!
# Decimal numerals

Reading decimal numerals as binary numbers, and finding the decimal numeral with the fewest
digits that reads back as a given number.

* `Decimal.magnitude`: the magnitude nearest to a decimal.
* `Decimal.read?`: the numerals that may be written for a number, with an optional sign, point
  and exponent.
* `Decimal.shortest`: of the decimals with the fewest digits that read back, the one nearest to
  the number. Every grid of decimals is tested at the two neighbours of the number; when no
  grid with few digits has a hit, the exact decimal expansion is the answer, which reads back
  as every binary number has one.
-/

namespace Plotline.Numeral

/-- The number `digits * 10 ^ exponent`. -/
structure Decimal where
  digits : Nat
  exponent : Int
deriving DecidableEq, Repr

namespace Decimal

/-- Decimals from `10 ^ reach` on are infinite and those below `10 ^ -reach` are zero, in both
formats. -/
def reach : Int := 400

/-- How many digits a number is written with. -/
def width (n : Nat) : Nat := n.repr.length

/-- The magnitude nearest to the decimal. -/
def magnitude (f : Format) (x : Decimal) : Nat :=
  let top := x.exponent + width x.digits
  if x.digits = 0 ∨ top < -reach then 0
  else if reach < top then f.infinity
  else if 0 ≤ x.exponent then f.nearest (x.digits * Nat.pow 10 x.exponent.toNat) 1
  else f.nearest x.digits (Nat.pow 10 (-x.exponent).toNat)

/-! ## Reading -/

/-- The value of a run of digits, read after `acc`. -/
def digitsFrom (acc : Nat) (cs : List Char) : Nat :=
  cs.foldl (fun n c => 10 * n + (c.toNat - '0'.toNat)) acc

/-- A numeral's optional sign, and what follows it. -/
def sign : List Char → Bool × List Char
  | '-' :: cs => (true, cs)
  | '+' :: cs => (false, cs)
  | cs => (false, cs)

/-- The exponent at the end of a numeral: nothing, or a mark, an optional sign and digits. -/
def exponent? : List Char → Option Int
  | [] => some 0
  | c :: cs =>
    let (negative, ds) := sign cs
    if (c = 'e' ∨ c = 'E') ∧ ds ≠ [] ∧ ds.all Char.isDigit then
      let n : Int := digitsFrom 0 ds
      some (if negative then -n else n)
    else none

/-- An unsigned numeral: digits with an optional point, at least one digit, and an optional
exponent. -/
def unsigned? (cs : List Char) : Option Decimal :=
  let whole := cs.takeWhile Char.isDigit
  let rest := cs.dropWhile Char.isDigit
  let (part, rest) := match rest with
    | '.' :: r => (r.takeWhile Char.isDigit, r.dropWhile Char.isDigit)
    | r => ([], r)
  if whole.isEmpty ∧ part.isEmpty then none
  else (exponent? rest).map fun e => ⟨digitsFrom (digitsFrom 0 whole) part, e - part.length⟩

/-- A numeral, or a name of infinity or of no number in any case, read as a number. -/
def read? (f : Format) (text : String) : Option (Binary f) :=
  let (negative, cs) := sign text.toList
  let word := String.ofList (cs.map Char.toLower)
  if word = "inf" ∨ word = "infinity" then some ⟨negative, f.infinity⟩
  else if word = "nan" then some ⟨negative, f.infinity + Nat.pow 2 (f.fractionBits - 1)⟩
  else (unsigned? cs).map fun d => ⟨negative, d.magnitude f⟩

/-! ## Shortest decimals -/

/-- What to do when two decimals are equally near. -/
inductive Tie
  | up
  | toEven
deriving DecidableEq, Repr

/-- The exponent of the leading digit of `units * 2 ^ -depth`, for `0 < units`. -/
def leading (f : Format) (units : Nat) : Int :=
  (width (units * Nat.pow 10 f.depth / Nat.pow 2 f.depth) : Int) - 1 - f.depth

/-- The decimal with `count` digits that reads back as the magnitude, if there is one. Of the
two neighbours on the grid, the nearer one is taken when both read back. -/
def onGrid? (f : Format) (tie : Tie) (magnitude count : Nat) : Option Decimal :=
  let units := f.units magnitude
  let exponent := leading f units - count + 1
  let n := if 0 ≤ exponent then units else units * Nat.pow 10 (-exponent).toNat
  let d := if 0 ≤ exponent then Nat.pow 2 f.depth * Nat.pow 10 exponent.toNat
    else Nat.pow 2 f.depth
  let low : Decimal := ⟨n / d, exponent⟩
  let high : Decimal := ⟨n / d + 1, exponent⟩
  let gap := 2 * (n % d)
  let preferHigh := d < gap ∨ (d = gap ∧ (tie = .up ∨ (n / d) % 2 = 1))
  match decide (low.magnitude f = magnitude), decide (high.magnitude f = magnitude) with
  | true, true => some (if preferHigh then high else low)
  | true, false => some low
  | false, true => some high
  | false, false => none

/-- The exact value of a finite magnitude. -/
def exact (f : Format) (magnitude : Nat) : Decimal :=
  ⟨f.units magnitude * Nat.pow 5 f.depth, -f.depth⟩

/-- The shortest decimal that reads back as the magnitude, for a finite magnitude other than
zero. -/
def shortest (f : Format) (tie : Tie) (magnitude : Nat) : Decimal :=
  ((List.range 17).findSome? fun k => onGrid? f tie magnitude (k + 1)).getD (exact f magnitude)

/-- The digits of a decimal without the zeros at their end, and the power of ten at the point
before the first of them: the value is `0.digits * 10 ^ point`. -/
def scientific (x : Decimal) : List Char × Int :=
  let cs := x.digits.repr.toList
  ((cs.reverse.dropWhile (· = '0')).reverse, x.exponent + cs.length)

end Decimal

end Plotline.Numeral
