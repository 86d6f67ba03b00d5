import Plotline.Span
import Plotline.Text.Lines

/-!
# Diagnostics

What is reported about a fault: a code, the stage that the code belongs to, a message, and
where known the place in the script and advice.
-/

namespace Plotline

/-- The stage of compilation a fault belongs to. -/
inductive Stage
  | parsing
  | lowering
  | fitting
  | encoding
  | delivery
deriving DecidableEq, Repr

def Stage.label : Stage → String
  | .parsing => "syntax"
  | .lowering => "transpile"
  | .fitting => "optimize"
  | .encoding => "encode"
  | .delivery => "transmit"

/-- The number of a kind of fault. -/
structure FaultCode where
  number : UInt16
deriving DecidableEq, Repr

namespace FaultCode

/-- The stage is given by the hundreds; what has no stage of its own counts as a fault of the
script's text. -/
def stage (c : FaultCode) : Stage :=
  match c.number.toNat / 100 with
  | 2 => .lowering
  | 3 => .fitting
  | 4 => .delivery
  | 5 => .encoding
  | _ => .parsing

def label (c : FaultCode) : String := "E" ++ toString c.number.toNat

end FaultCode

structure Diagnostic where
  code : FaultCode
  message : String
  span : Option Span := none
  sourceLine : Option String := none
  suggestion : Option String := none
deriving DecidableEq, Repr

namespace Diagnostic

def stage (d : Diagnostic) : Stage := d.code.stage

/-- The diagnostic at a place of the script; an unknown place is left out. -/
def atSpan (d : Diagnostic) (span : Span) : Diagnostic :=
  { d with span := if span.isKnown then some span else none }

def withSuggestion (d : Diagnostic) (text : String) : Diagnostic :=
  { d with suggestion := some text }

/-- The diagnostic with the line of the script that it is about. -/
def withSource (d : Diagnostic) (source : String) : Diagnostic :=
  match d.span with
  | some span => { d with sourceLine := Text.line? source span.line }
  | none => d

/-- The diagnostic on one line. -/
def render (d : Diagnostic) : String :=
  let place := match d.span with
    | some span => span.label ++ ": "
    | none => ""
  place ++ d.code.label ++ " [" ++ d.stage.label ++ "] " ++ d.message

/-- The members of the diagnostic as a record, in their order; what is not known is left out. -/
def members (d : Diagnostic) : List (String × Json) :=
  [("code", .int d.code.number.toNat), ("category", .str d.stage.label),
      ("message", .str d.message)] ++
    (d.span.map fun s => ("span", s.toJson)).toList ++
    (d.sourceLine.map fun l => ("source_line", .str l)).toList ++
    (d.suggestion.map fun s => ("suggestion", .str s)).toList

def toJson (d : Diagnostic) : Json := .obj d.members

end Diagnostic

end Plotline
