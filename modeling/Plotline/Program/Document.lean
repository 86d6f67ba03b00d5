import Plotline.Program.Basic
import Plotline.Value.Document

/-!
# Program documents

How instructions, templates and programs stand in documents. A choice of instruction is written
by its name; absent targets and else bodies are written as nothing.
-/

namespace Plotline

namespace BlockKind

/-- The categories by their names in program documents. -/
def table : List (String × BlockKind) :=
  [("player_event", .playerEvent), ("entity_event", .entityEvent), ("function", .function),
    ("process", .process), ("player_action", .playerAction), ("entity_action", .entityAction),
    ("game_action", .gameAction), ("set_var", .setVar), ("control", .control),
    ("if_player", .ifPlayer), ("if_entity", .ifEntity), ("if_game", .ifGame), ("if_var", .ifVar),
    ("else", .otherwise), ("repeat", .loop), ("call_function", .callFunction),
    ("start_process", .startProcess)]

def ofJson? : Json → Option BlockKind := Json.name? table

def toJson (b : BlockKind) : Json :=
  .str (((table.find? fun e => e.2 = b).map Prod.fst).getD b.id)

end BlockKind

namespace EventKind

def label : EventKind → String
  | .player => "player"
  | .entity => "entity"

def ofJson? : Json → Option EventKind := Json.name? [("player", .player), ("entity", .entity)]

end EventKind

/-! ## Writing -/

/-- The document of a list of arguments. -/
def Value.listToJson (args : List Value) : Json := .arr (args.map Value.toJson)

/-- The document of a target; there may be none. -/
def Selector.optionToJson (target : Option Selector) : Json :=
  documentOption (fun t : Selector => .str t.name) target

def Head.toJson : Head → Json
  | .branch c =>
    .obj [("if", .obj [("args", Value.listToJson c.args), ("block", c.block.toJson),
      ("inverted", .bool c.inverted), ("name", .str c.name),
      ("target", Selector.optionToJson c.target)])]
  | .loop l =>
    .obj [("repeat", .obj [("args", Value.listToJson l.args), ("inverted", .bool l.inverted),
      ("name", .str l.name), ("sub_action", documentOption Json.str l.subAction)])]

namespace Instruction

mutual

def toJson : Instruction → Json
  | .action a =>
    .obj [("action", .obj [("args", Value.listToJson a.args), ("block", a.block.toJson),
      ("name", .str a.name), ("target", Selector.optionToJson a.target)])]
  | .call c =>
    .obj [("call", .obj [("args", Value.listToJson c.args),
      ("kind", .str (match c.kind with | .function => "function" | .process => "process")),
      ("name", .str c.name)])]
  | .bracket head setup body none =>
    .obj [("bracket", .obj [("body", .arr (toJsonAll body)), ("else_body", .null),
      ("kind", head.toJson), ("setup", .arr (toJsonAll setup))])]
  | .bracket head setup body (some rest) =>
    .obj [("bracket", .obj [("body", .arr (toJsonAll body)), ("else_body", .arr (toJsonAll rest)),
      ("kind", head.toJson), ("setup", .arr (toJsonAll setup))])]

def toJsonAll : List Instruction → List Json
  | [] => []
  | i :: is => toJson i :: toJsonAll is

end

end Instruction

def Header.toJson : Header → Json
  | .event kind name => .obj [("event", .obj [("kind", .str kind.label), ("name", .str name)])]
  | .function name params hidden =>
    .obj [("function", .obj [("hidden", .bool hidden), ("name", .str name),
      ("params", .arr (params.map Json.str))])]
  | .process name => .obj [("process", .obj [("name", .str name)])]

def Template.toJson (t : Template) : Json :=
  .obj [("body", .arr (Instruction.toJsonAll t.body)), ("header", t.header.toJson)]

def Program.toJson (p : Program) : Json := .obj [("units", .arr (p.units.map Template.toJson))]

/-! ## Reading -/

/-- The arguments of a document. -/
def Value.listOfJson? : Json → Option (List Value) := Json.list? Value.ofJson?

def Head.ofJson? (j : Json) : Option Head := do
  let (name, content) ← j.choice?
  let content ← content
  match name with
  | "if" =>
    let r ← content.record? ["block", "name", "args", "target", "inverted"]
    let block ← r.required "block" BlockKind.ofJson?
    let name ← r.required "name" Json.string?
    let args ← r.required "args" Value.listOfJson?
    let target ← r.optional "target" Selector.ofJson?
    let inverted ← r.required "inverted" Json.bool?
    return .branch { block, name, args, target, inverted }
  | "repeat" =>
    let r ← content.record? ["name", "args", "sub_action", "inverted"]
    let name ← r.required "name" Json.string?
    let args ← r.required "args" Value.listOfJson?
    let subAction ← r.optional "sub_action" Json.string?
    let inverted ← r.required "inverted" Json.bool?
    return .loop { name, args, subAction, inverted }
  | _ => none

namespace Instruction

/-- The instruction of a document, whose height is at most `fuel`. -/
def ofJsonWithin? : Nat → Json → Option Instruction
  | 0, _ => none
  | fuel + 1, j => do
    let (name, content) ← j.choice?
    let content ← content
    match name with
    | "action" =>
      let r ← content.record? ["block", "name", "args", "target"]
      let block ← r.required "block" BlockKind.ofJson?
      let name ← r.required "name" Json.string?
      let args ← r.required "args" Value.listOfJson?
      let target ← r.optional "target" Selector.ofJson?
      return .action { block, name, args, target }
    | "call" =>
      let r ← content.record? ["kind", "name", "args"]
      let kind ← r.required "kind" (Json.name? [("function", .function), ("process", .process)])
      let name ← r.required "name" Json.string?
      let args ← r.required "args" Value.listOfJson?
      return .call { kind, name, args }
    | "bracket" =>
      let r ← content.record? ["kind", "setup", "body", "else_body"]
      let head ← r.required "kind" Head.ofJson?
      let setup ← r.required "setup" (Json.list? (ofJsonWithin? fuel))
      let body ← r.required "body" (Json.list? (ofJsonWithin? fuel))
      let rest ← r.optional "else_body" (Json.list? (ofJsonWithin? fuel))
      return .bracket head setup body rest
    | _ => none

/-- The instruction of a document. -/
def ofJson? (j : Json) : Option Instruction := ofJsonWithin? j.height j

end Instruction

def Header.ofJson? (j : Json) : Option Header := do
  let (name, content) ← j.choice?
  let r ← (← content).object?
  match name with
  | "event" =>
    let kind ← r.required "kind" EventKind.ofJson?
    let name ← r.required "name" Json.string?
    return .event kind name
  | "function" =>
    let name ← r.required "name" Json.string?
    let params ← r.required "params" (Json.list? Json.string?)
    let hidden ← r.required "hidden" Json.bool?
    return .function name params hidden
  | "process" => return .process (← r.required "name" Json.string?)
  | _ => none

def Template.ofJson? (j : Json) : Option Template := do
  let r ← j.record? ["header", "body"]
  let header ← r.required "header" Header.ofJson?
  let body ← r.required "body" (Json.list? Instruction.ofJson?)
  return { header, body }

def Program.ofJson? (j : Json) : Option Program := do
  let r ← j.record? ["units"]
  return { units := ← r.required "units" (Json.list? Template.ofJson?) }

end Plotline
