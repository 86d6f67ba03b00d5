/-!
# Lines of a text

A text has one line more than it has newline characters. Its lines are known by the byte positions
at which they begin and are cut from the text when they are asked for. A line is shown without the
carriage returns at its end.
-/

namespace Plotline.Text

/-- The byte positions of the newlines in characters of which the first is at `p`. -/
def newlinesFrom (p : String.Pos.Raw) : List Char → List String.Pos.Raw
  | [] => []
  | c :: cs => if c = '\n' then p :: newlinesFrom (p + c) cs else newlinesFrom (p + c) cs

/-- The byte positions at which the lines of a text begin: its start, and behind each newline. -/
def lineStarts (text : String) : List String.Pos.Raw :=
  0 :: (newlinesFrom 0 text.toList).map (·.inc)

/-- How many lines a text has. -/
def lineCount (text : String) : Nat := (lineStarts text).length

/-- Where the line with the given number, counted from one, begins and ends. A line ends one byte in
front of the next one, and the last line at the end of the text. -/
def lineBounds? (text : String) (number : UInt32) : Option (String.Pos.Raw × String.Pos.Raw) :=
  match number.toNat with
  | 0 => none
  | index + 1 => do
    let start ← (lineStarts text)[index]?
    return (start, (lineStarts text)[index + 1]?.elim text.rawEndPos (·.dec))

/-- The text between two byte positions, unless one of them is no position between characters or the
second is in front of the first. -/
def slice? (text : String) (start stop : String.Pos.Raw) : Option String := do
  let first ← text.pos? start
  let last ← text.pos? stop
  let part ← text.slice? first last
  return part.copy

/-- The line with the given number, counted from one. -/
def line? (text : String) (number : UInt32) : Option String := do
  let (start, stop) ← lineBounds? text number
  let line ← slice? text start stop
  return (line.dropEndWhile '\r').copy

end Plotline.Text
