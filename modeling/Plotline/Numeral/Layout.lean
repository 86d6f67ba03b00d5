import Plotline.Numeral.Decimal

/-!
# Layouts of numbers

The two texts of a number: the plain one of listings, messages and number records, and the one
of documents.
-/

namespace Plotline.Numeral

/-- Digits `0.digits * 10 ^ point` written without an exponent, and without a point when there
is nothing after it. -/
def positional (digits : List Char) (point : Int) : List Char :=
  if point ≤ 0 then '0' :: '.' :: List.replicate (-point).toNat '0' ++ digits
  else if point < digits.length then digits.take point.toNat ++ '.' :: digits.drop point.toNat
  else digits ++ List.replicate (point.toNat - digits.length) '0'

namespace Binary

variable {f : Format}

/-- A minus sign in front of a negative number, zero included. -/
def signed (x : Binary f) (cs : List Char) : String :=
  String.ofList (if x.negative then '-' :: cs else cs)

/-- The plain text of a number: the fewest digits that read back, never an exponent. -/
def plain (x : Binary f) : String :=
  if x.magnitude = 0 then x.signed ['0']
  else if x.isFinite then
    let (digits, point) := (Decimal.shortest f .up x.magnitude).scientific
    x.signed (positional digits point)
  else if x.isInfinite then x.signed ['i', 'n', 'f']
  else "NaN"

/-- Digits in exponent notation; the exponent always has a sign, and the point only stands
between digits. -/
def exponential (digits : List Char) (point : Int) : List Char :=
  let e := point - 1
  let mantissa := match digits with
    | c :: d :: ds => c :: '.' :: d :: ds
    | ds => ds
  mantissa ++ 'e' :: (if e < 0 then '-' else '+') :: e.natAbs.repr.toList

/-- The text of a number in a document: positional between `0.00001` and `10 ^ 16` with a digit
after the point, else with an exponent; `null` for what is not finite. -/
def inDocument (x : Binary f) : String :=
  if x.magnitude = 0 then x.signed ['0', '.', '0']
  else if x.isFinite then
    let (digits, point) := (Decimal.shortest f .toEven x.magnitude).scientific
    if -5 < point ∧ point ≤ 16 then
      let cs := positional digits point
      x.signed (if digits.length ≤ point then cs ++ ['.', '0'] else cs)
    else x.signed (exponential digits point)
  else "null"

end Binary

end Plotline.Numeral
