import Plotline.Json.Basic
import Plotline.Json.Token
import Plotline.Numeral.Decimal

/-!
# Reading documents

A text is read in three steps: its tokens, then a `Draft`, whose strings, keys and numbers are not
checked yet and whose objects still have all the members that were written, then the document.

* `Draft.read?` is a machine on tokens that keeps the groups that are still open on a stack.
* `Draft.resolve?` refuses halves of surrogate pairs, numbers that are too large and groups that
  are nested too deep. Of several members with one key the last counts.
-/

namespace Plotline.Json

open Numeral

/-- A document as written. Strings and keys are code units. A number is none when it is too
large. -/
inductive Draft
  | plain (j : Json)
  | number (n : Option Json)
  | string (units : List Nat)
  | list (items : List Draft)
  | object (members : List (List Nat × Draft))

namespace Draft

/-! ## Words -/

/-- An unsigned numeral of a document: no zero in front of other digits, and digits on both
sides of a point. -/
def isNumeral (cs : List Char) : Bool :=
  let whole := cs.takeWhile Char.isDigit
  let rest := cs.dropWhile Char.isDigit
  let tail := match rest with
    | '.' :: r =>
      if (r.takeWhile Char.isDigit).isEmpty then none else some (r.dropWhile Char.isDigit)
    | r => some r
  (whole = ['0'] || (!whole.isEmpty && whole.head? ≠ some '0')) &&
    match tail with
    | some r => (Decimal.exponent? r).isSome
    | none => false

/-- A number: whole when it is written without point and exponent and fits into 64 bits, else a
floating point number. Zero with a minus sign is not whole. -/
def number? (negative : Bool) (cs : List Char) : Option Draft :=
  if isNumeral cs then
    let n := Decimal.digitsFrom 0 cs
    if cs.all Char.isDigit ∧ ¬negative ∧ n < Nat.pow 2 64 then some (.number (some (.int n)))
    else if cs.all Char.isDigit ∧ negative ∧ 0 < n ∧ n ≤ Nat.pow 2 63 then
      some (.number (some (.int (-n))))
    else
      (Decimal.unsigned? cs).map fun d =>
        let x : Double := ⟨negative, d.magnitude .double⟩
        .number (if x.isFinite then some (.float x) else none)
  else none

/-- What a word spells. -/
def word? (cs : List Char) : Option Draft :=
  if cs = ['n', 'u', 'l', 'l'] then some (.plain .null)
  else if cs = ['t', 'r', 'u', 'e'] then some (.plain (.bool true))
  else if cs = ['f', 'a', 'l', 's', 'e'] then some (.plain (.bool false))
  else match cs with
    | '-' :: r => number? true r
    | r => number? false r

/-! ## Groups -/

/-- A group that is still open, its content last one first. -/
inductive Frame
  | items (read : List Draft)
  | members (read : List (List Nat × Draft))
  | member (read : List (List Nat × Draft)) (key : List Nat)

/-- What may come next. -/
inductive Expect
  | value
  | firstItem
  | firstKey
  | key
  | colon (key : List Nat)
  | next
  | finished (d : Draft)

structure Machine where
  frames : List Frame
  expect : Expect

/-- A value has been read: it is the document, or goes into the innermost open group. -/
def complete (d : Draft) : List Frame → Option Machine
  | [] => some ⟨[], .finished d⟩
  | .items read :: frames => some ⟨.items (d :: read) :: frames, .next⟩
  | .member read key :: frames => some ⟨.members ((key, d) :: read) :: frames, .next⟩
  | .members _ :: _ => none

/-- The first token of a value. -/
def begin (frames : List Frame) : Token → Option Machine
  | .openList => some ⟨.items [] :: frames, .firstItem⟩
  | .openObject => some ⟨.members [] :: frames, .firstKey⟩
  | .string units => complete (.string units) frames
  | .word cs => (word? cs).bind (complete · frames)
  | .closeList | .closeObject | .comma | .colon => none

/-- The innermost group is closed. -/
def close : List Frame → Token → Option Machine
  | .items read :: frames, .closeList => complete (.list read.reverse) frames
  | .members read :: frames, .closeObject => complete (.object read.reverse) frames
  | _, _ => none

/-- One token. -/
def step (m : Machine) (t : Token) : Option Machine :=
  match m.expect, t with
  | .value, t => begin m.frames t
  | .firstItem, .closeList => close m.frames .closeList
  | .firstItem, t => begin m.frames t
  | .firstKey, .closeObject => close m.frames .closeObject
  | .firstKey, .string units | .key, .string units => some ⟨m.frames, .colon units⟩
  | .colon key, .colon =>
    match m.frames with
    | .members read :: frames => some ⟨.member read key :: frames, .value⟩
    | _ => none
  | .next, .comma =>
    match m.frames with
    | .items _ :: _ => some ⟨m.frames, .value⟩
    | .members _ :: _ => some ⟨m.frames, .key⟩
    | _ => none
  | .next, t => close m.frames t
  | _, _ => none

/-- The draft that a text spells. -/
def read? (text : String) : Option Draft := do
  let tokens ← Token.scan text.toList
  let m ← tokens.foldlM step ⟨[], .value⟩
  match m.expect with
  | .finished d => some d
  | _ => none

/-! ## Checked documents -/

mutual

/-- The document of a draft in which at most `depth` groups are nested. -/
def resolve? (depth : Nat) : Draft → Option Json
  | .plain j => some j
  | .number n => n
  | .string units => (Token.text? units).map .str
  | .list items =>
    if depth = 0 then none else (resolveItems? (depth - 1) items).map .arr
  | .object members =>
    if depth = 0 then none
    else (resolveMembers? (depth - 1) members).map fun ms => .obj (sortMembers ms)

def resolveItems? (depth : Nat) : List Draft → Option (List Json)
  | [] => some []
  | d :: ds => do return (← resolve? depth d) :: (← resolveItems? depth ds)

def resolveMembers? (depth : Nat) : List (List Nat × Draft) → Option (List (String × Json))
  | [] => some []
  | (k, d) :: ds => do
    return (← Token.text? k, ← resolve? depth d) :: (← resolveMembers? depth ds)

end

end Draft

/-- How many groups may be nested. -/
def nestingLimit : Nat := 127

/-- The document that a text spells, with at most `depth` nested groups. -/
def readWithin? (depth : Nat) (text : String) : Option Json :=
  (Draft.read? text).bind (Draft.resolve? depth)

/-- The document that a text spells. -/
def read? (text : String) : Option Json := readWithin? nestingLimit text

end Plotline.Json
