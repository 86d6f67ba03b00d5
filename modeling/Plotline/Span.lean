import Plotline.Json.Record

/-!
# Positions in a script

A span runs from a line and column to another, both counted from one. Spans that are not known
have line zero.
-/

namespace Plotline

structure Span where
  line : UInt32
  column : UInt32
  endLine : UInt32
  endColumn : UInt32
deriving DecidableEq, Repr

namespace Span

/-- The span of everything that was not given one. -/
def unknown : Span := ⟨0, 0, 0, 0⟩

instance : Inhabited Span := ⟨unknown⟩

def isKnown (s : Span) : Bool := 0 < s.line

/-- The start of the span. -/
def label (s : Span) : String :=
  if s.isKnown then toString s.line.toNat ++ ":" ++ toString s.column.toNat else "?:?"

def toJson (s : Span) : Json :=
  .obj [("line", .int s.line.toNat), ("column", .int s.column.toNat),
    ("end_line", .int s.endLine.toNat), ("end_column", .int s.endColumn.toNat)]

def ofJson? (j : Json) : Option Span := do
  let r ← j.record? ["line", "column", "end_line", "end_column"]
  let line ← r.required "line" Json.uint32?
  let column ← r.required "column" Json.uint32?
  let endLine ← r.required "end_line" Json.uint32?
  let endColumn ← r.required "end_column" Json.uint32?
  return { line, column, endLine, endColumn }

end Span

end Plotline
