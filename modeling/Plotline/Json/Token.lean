/-!
# Tokens of document texts

A document text is cut into tokens by a machine that reads one character after the other.
A string token keeps the code units that its escapes spell; a word is everything else between
blanks, quotes and punctuation.
-/

namespace Plotline.Json

inductive Token
  | openList
  | closeList
  | openObject
  | closeObject
  | comma
  | colon
  | string (units : List Nat)
  | word (chars : List Char)
deriving DecidableEq, Repr

namespace Token

/-- Where the machine stands between two characters. What it has read of a token is kept last
character first. -/
inductive Mode
  | between
  | inWord (chars : List Char)
  | inString (units : List Nat)
  | inEscape (units : List Nat)
  | inCode (units : List Nat) (missing value : Nat)

/-- The tokens so far, last one first, and the part of a token that has begun. -/
structure Machine where
  tokens : List Token
  mode : Mode

/-- The blanks of a document text. -/
def isBlank (c : Char) : Bool := c = ' ' || c = '\n' || c = '\r' || c = '\t'

/-- The token that is one character long. -/
def punctuation? (c : Char) : Option Token :=
  if c = '[' then some .openList
  else if c = ']' then some .closeList
  else if c = '\x7b' then some .openObject
  else if c = '\x7d' then some .closeObject
  else if c = ',' then some .comma
  else if c = ':' then some .colon
  else none

/-- The character that stands for an escape of one letter. -/
def escape? (c : Char) : Option Nat :=
  if c = '"' ∨ c = '\\' ∨ c = '/' then some c.toNat
  else if c = 'b' then some 0x08
  else if c = 'f' then some 0x0C
  else if c = 'n' then some 0x0A
  else if c = 'r' then some 0x0D
  else if c = 't' then some 0x09
  else none

/-- The value of a digit in base sixteen, of either case. -/
def hexDigit? (c : Char) : Option Nat :=
  let n := c.toNat
  if 0x30 ≤ n ∧ n ≤ 0x39 then some (n - 0x30)
  else if 0x41 ≤ n ∧ n ≤ 0x46 then some (n - 0x41 + 10)
  else if 0x61 ≤ n ∧ n ≤ 0x66 then some (n - 0x61 + 10)
  else none

/-- A character between tokens. -/
def begin (tokens : List Token) (c : Char) : Machine :=
  if isBlank c then ⟨tokens, .between⟩
  else if c = '"' then ⟨tokens, .inString []⟩
  else match punctuation? c with
    | some t => ⟨t :: tokens, .between⟩
    | none => ⟨tokens, .inWord [c]⟩

/-- One character. -/
def step (m : Machine) (c : Char) : Option Machine :=
  match m.mode with
  | .between => some (begin m.tokens c)
  | .inWord chars =>
    if isBlank c || c = '"' || (punctuation? c).isSome then
      some (begin (.word chars.reverse :: m.tokens) c)
    else some ⟨m.tokens, .inWord (c :: chars)⟩
  | .inString units =>
    if c = '"' then some ⟨.string units.reverse :: m.tokens, .between⟩
    else if c = '\\' then some ⟨m.tokens, .inEscape units⟩
    else if c.toNat < 0x20 then none
    else some ⟨m.tokens, .inString (c.toNat :: units)⟩
  | .inEscape units =>
    if c = 'u' then some ⟨m.tokens, .inCode units 4 0⟩
    else (escape? c).map fun n => ⟨m.tokens, .inString (n :: units)⟩
  | .inCode units missing value =>
    (hexDigit? c).map fun d =>
      let value := 16 * value + d
      if missing ≤ 1 then ⟨m.tokens, .inString (value :: units)⟩
      else ⟨m.tokens, .inCode units (missing - 1) value⟩

/-- The tokens when the text has ended. -/
def finish (m : Machine) : Option (List Token) :=
  match m.mode with
  | .between => some m.tokens.reverse
  | .inWord chars => some (.word chars.reverse :: m.tokens).reverse
  | _ => none

/-- The tokens of a text. -/
def scan (text : List Char) : Option (List Token) :=
  (text.foldlM step ⟨[], .between⟩).bind finish

/-! ## What tokens spell -/

/-- The characters that code units spell. Units of the two halves of a pair have to stand
together, the high one first. -/
def characters? : List Nat → Option (List Char)
  | [] => some []
  | [u] => if 0xD800 ≤ u ∧ u < 0xE000 then none else some [Char.ofNat u]
  | u :: v :: rest =>
    if 0xD800 ≤ u ∧ u < 0xDC00 then
      if 0xDC00 ≤ v ∧ v < 0xE000 then
        (characters? rest).map (Char.ofNat (0x10000 + (u - 0xD800) * 0x400 + (v - 0xDC00)) :: ·)
      else none
    else if 0xDC00 ≤ u ∧ u < 0xE000 then none
    else (characters? (v :: rest)).map (Char.ofNat u :: ·)

/-- The text that code units spell. -/
def text? (units : List Nat) : Option String := (characters? units).map String.ofList

end Token

end Plotline.Json
