import Plotline.Json.Basic
import Plotline.Numeral.Layout
import Plotline.Text.Quoted

/-!
# Printing documents

`Json.compact` prints a document on one line without spaces, `Json.pretty` prints it with one
member or item on a line. Both print members in the order in which they stand.
-/

namespace Plotline.Json

/-- One character of a printed string. Only the quote, the backslash and control characters
below the space are escaped. -/
def printedChar (c : Char) : String :=
  if c = '"' then "\\\""
  else if c = '\\' then "\\\\"
  else if c = '\x08' then "\\b"
  else if c = '\x0c' then "\\f"
  else if c = '\n' then "\\n"
  else if c = '\r' then "\\r"
  else if c = '\t' then "\\t"
  else if c.toNat < 0x10 then "\\u000" ++ Text.hex c.toNat
  else if c.toNat < 0x20 then "\\u00" ++ Text.hex c.toNat
  else String.singleton c

/-- A printed string with its quotes. -/
def printedString (s : String) : String :=
  "\"" ++ String.join (s.toList.map printedChar) ++ "\""

mutual

/-- The document on one line. -/
def compact : Json → String
  | .null => "null"
  | .bool true => "true"
  | .bool false => "false"
  | .int n => toString n
  | .float x => x.inDocument
  | .str s => printedString s
  | .arr items => "[" ++ ",".intercalate (compactItems items) ++ "]"
  | .obj members => "\x7b" ++ ",".intercalate (compactMembers members) ++ "\x7d"

def compactItems : List Json → List String
  | [] => []
  | j :: js => compact j :: compactItems js

def compactMembers : List (String × Json) → List String
  | [] => []
  | (k, j) :: ms => (printedString k ++ ":" ++ compact j) :: compactMembers ms

end

/-- Lines of a bracketed group: each entry on a line of its own, two spaces deeper than the
group. -/
def group (left right : String) (depth : Nat) (entries : List String) : String :=
  if entries.isEmpty then left ++ right
  else
    let indent := String.ofList (List.replicate (2 * depth) ' ')
    left ++ "\n" ++ ",\n".intercalate (entries.map fun e => indent ++ "  " ++ e) ++ "\n" ++
      indent ++ right

mutual

/-- The document on several lines, as a part of one that is `depth` levels deep. -/
def prettyAt (depth : Nat) : Json → String
  | .null => "null"
  | .bool true => "true"
  | .bool false => "false"
  | .int n => toString n
  | .float x => x.inDocument
  | .str s => printedString s
  | .arr items => group "[" "]" depth (prettyItems (depth + 1) items)
  | .obj members => group "\x7b" "\x7d" depth (prettyMembers (depth + 1) members)

def prettyItems (depth : Nat) : List Json → List String
  | [] => []
  | j :: js => prettyAt depth j :: prettyItems depth js

def prettyMembers (depth : Nat) : List (String × Json) → List String
  | [] => []
  | (k, j) :: ms => (printedString k ++ ": " ++ prettyAt depth j) :: prettyMembers depth ms

end

/-- The document on several lines. -/
def pretty (j : Json) : String := prettyAt 0 j

end Plotline.Json
