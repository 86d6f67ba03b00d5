import Plotline.Text.Quoted

/-!
# Outlines

The structure of a value as indented text: the name of each part on a line of its own.
-/

namespace Plotline

/-- A structure to be written down. A record without fields is only its name. -/
inductive Outline
  | number (n : Nat)
  | text (s : String)
  | list (items : List Outline)
  | record (name : String) (fields : List (String × Outline))
  | wrapped (name : String) (content : Outline)

namespace Outline

/-- The lines of a part of a group: indented, with a label in front and a comma behind. -/
def part (label : String) : List String → List String
  | [] => []
  | [line] => ["    " ++ label ++ line ++ ","]
  | line :: rest =>
    ("    " ++ label ++ line) ::
      (rest.dropLast.map fun l => "    " ++ l) ++ [("    " ++ rest.getLastD "" ++ ",")]

mutual

def lines : Outline → List String
  | .number n => [toString n]
  | .text s => [Text.quoted s]
  | .list [] => ["[]"]
  | .list (i :: is) => "[" :: part "" (lines i) ++ itemLines is ++ ["]"]
  | .record name [] => [name]
  | .record name ((label, f) :: fs) =>
    (name ++ " \x7b") :: part (label ++ ": ") (lines f) ++ fieldLines fs ++ ["\x7d"]
  | .wrapped name content => (name ++ "(") :: part "" (lines content) ++ [")"]

def itemLines : List Outline → List String
  | [] => []
  | i :: is => part "" (lines i) ++ itemLines is

def fieldLines : List (String × Outline) → List String
  | [] => []
  | (label, f) :: fs => part (label ++ ": ") (lines f) ++ fieldLines fs

end

def render (o : Outline) : String := "\n".intercalate o.lines

/-- The name at the top of an outline. -/
def name : Outline → String
  | .record name _ | .wrapped name _ => name
  | .number _ | .text _ | .list _ => ""

end Outline

end Plotline
