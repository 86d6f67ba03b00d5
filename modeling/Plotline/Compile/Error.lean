import Plotline.Compile.Outline
import Plotline.Delivery.Error
import Plotline.Fitting.Error
import Plotline.Lowering.Error
import Plotline.Script.Document
import Plotline.Wire.Document

/-!
# Reports of failed compilations

Everything that can go wrong between the document of a script and its delivery, and how it is
reported: as a diagnostic, as one line, or in full with an outline of the error.
-/

namespace Plotline

/-! ## Outlines of errors -/

def Span.outline (s : Span) : Outline :=
  .record "Span" [("line", .number s.line.toNat), ("column", .number s.column.toNat),
    ("end_line", .number s.endLine.toNat), ("end_column", .number s.endColumn.toNat)]

def ValueKind.outline : ValueKind → Outline
  | .text => .record "Text" []
  | .number => .record "Number" []
  | .location => .record "Location" []
  | .vector => .record "Vector" []
  | .sound => .record "Sound" []
  | .potion => .record "Potion" []
  | .variable => .record "Variable" []
  | .gameValue => .record "GameValue" []
  | .particle => .record "Particle" []
  | .tag => .record "Tag" []
  | .item => .record "Item" []

/-- The name of a fault and the parts of it. -/
def LoweringFault.parts : LoweringFault → String × List (String × Outline)
  | .unknownInstruction block name =>
    ("UnknownInstruction", [("block", .text block.id), ("name", .text name)])
  | .argumentCount action expected found =>
    ("ArgumentCount",
      [("action", .text action), ("expected", .text expected.label), ("found", .number found)])
  | .argumentKind action position param expected found =>
    ("ArgumentKind",
      [("action", .text action), ("position", .number position), ("param", .text param),
        ("expected", .text expected.label), ("found", found.outline)])
  | .unresolvedVariable name => ("UnresolvedVariable", [("name", .text name)])
  | .unknownFunction name => ("UnknownFunction", [("name", .text name)])
  | .unknownTag action tag => ("UnknownTag", [("action", .text action), ("tag", .text tag)])
  | .invalidTagOption tag option allowed =>
    ("InvalidTagOption",
      [("tag", .text tag), ("option", .text option), ("allowed", .list (allowed.map .text))])
  | .unknownSelector name => ("UnknownSelector", [("name", .text name)])
  | .invalidLiteral reason => ("InvalidLiteral", [("reason", .text reason.message)])
  | .misplaced what => ("Misplaced", [("what", .text what.describe)])
  | .duplicateDefinition name => ("DuplicateDefinition", [("name", .text name)])
  | .unknownEvent name => ("UnknownEvent", [("name", .text name)])

def LoweringError.outline (e : LoweringError) : Outline :=
  .record e.fault.parts.1 (e.fault.parts.2 ++ [("span", e.span.outline)])

def FittingError.outline : FittingError → Outline
  | .unsplittable unit construct capacity =>
    .record "UnsplittableUnit"
      [("unit", .text unit), ("construct", .text construct), ("capacity", .number capacity)]
  | .splitExit unit construct exit =>
    .record "SplitExit"
      [("unit", .text unit), ("construct", .text construct), ("exit", .text exit.action)]

def EncodingError.outline : EncodingError → Outline
  | .slotOverflow block count =>
    .record "SlotOverflow" [("block", .text block), ("count", .number count)]

def Progress.outline (p : Progress) : Outline :=
  .record "Progress" [("delivered", .number p.delivered), ("total", .number p.total)]

def DeliveryError.outline : DeliveryError → Outline
  | .refused address reason =>
    .record "ConnectionRefused" [("address", .text address), ("reason", .text reason)]
  | .timeout awaited milliseconds progress =>
    .record "AckTimeout" [("awaiting", .text awaited.label), ("timeout_ms", .number milliseconds),
      ("progress", progress.outline)]
  | .lost reason progress =>
    .record "ConnectionLost" [("reason", .text reason), ("progress", progress.outline)]
  | .rejected index reason progress =>
    .record "DeliveryRejected" [("index", .number index), ("reason", .text reason),
      ("progress", progress.outline)]
  | .unexpected response progress =>
    .record "UnexpectedResponse" [("response", .text response), ("progress", progress.outline)]
  | .closed => .record "SessionClosed" []

def Script.ParseError.outline (e : Script.ParseError) : Outline :=
  .record "SyntaxError" [("message", .text e.message), ("span", e.span.outline)]

/-! ## Errors of a compilation -/

inductive CompileError
  | document
  | parser (e : Script.ParseError)
  | lowering (e : LoweringError)
  | fitting (e : FittingError)
  | encoding (e : EncodingError)
  | delivery (e : DeliveryError)
deriving DecidableEq, Repr

/-- How much a report says. -/
inductive ErrorDetail
  | short
  | full
deriving DecidableEq, Repr

namespace CompileError

def ofReadError : Script.ReadError → CompileError
  | .document => .document
  | .parser e => .parser e

/-- The code of faults in the text of a script. -/
def textFault : FaultCode := ⟨100⟩

def message : CompileError → String
  | .document => "invalid AST document"
  | .parser e => e.span.label ++ ": syntax error: " ++ e.message
  | .lowering e => e.message
  | .fitting e => e.message
  | .encoding e => e.message
  | .delivery e => e.message

def diagnostic : CompileError → Diagnostic
  | .document => { code := textFault, message := message .document }
  | .parser e => { code := textFault, message := e.message : Diagnostic }.atSpan e.span
  | .lowering e => e.diagnostic
  | .fitting e => e.diagnostic
  | .encoding e => e.diagnostic
  | .delivery e => e.diagnostic

def code (e : CompileError) : FaultCode := e.diagnostic.code

def outline : CompileError → Outline
  | .document => .record "Ast" []
  | .parser e => .wrapped "Syntax" e.outline
  | .lowering e => .wrapped "Transpile" e.outline
  | .fitting e => .wrapped "Optimize" e.outline
  | .encoding e => .wrapped "Codegen" e.outline
  | .delivery e => .wrapped "Transmit" e.outline

/-- The name of the kind of error. -/
def kind : CompileError → String
  | .document => "Ast"
  | .parser _ => "Syntax"
  | .lowering e => e.outline.name
  | .fitting e => e.outline.name
  | .encoding e => e.outline.name
  | .delivery e => e.outline.name

/-- The report of an error; with the text of the script it quotes the line that is at fault. -/
def report (e : CompileError) (detail : ErrorDetail) (source : Option String) : String :=
  let d := match source with
    | some text => e.diagnostic.withSource text
    | none => e.diagnostic
  let summary := "error[" ++ d.code.label ++ "]: " ++ d.message
  match detail with
  | .short => summary
  | .full =>
    let place := match d.span with
      | some span => span.label
      | none => "unknown"
    let quotation := match d.sourceLine with
      | some line => ["   | " ++ line]
      | none => []
    let help := match d.suggestion with
      | some text => ["  help: " ++ text]
      | none => []
    "\n".intercalate ([summary, "  code: " ++ d.code.label, "  category: " ++ d.stage.label,
      "  at: " ++ place] ++ quotation ++ help ++ [e.outline.render])

end CompileError

end Plotline
