import Plotline.Program.Document
import Plotline.Script.Basic
import Plotline.Json.Reader

/-!
# Script documents

How a script stands in the document that the parser hands over. Everything is written, but when
reading spans and empty parts may be left out. A document may also report that the parser failed.
-/

namespace Plotline

open Numeral

namespace Script

/-! ## Names of the alternatives -/

def BinaryOp.table : List (String × BinaryOp) :=
  [("add", .add), ("sub", .sub), ("mul", .mul), ("div", .div), ("mod", .mod)]

def AssignOp.table : List (String × AssignOp) :=
  [("set", .set), ("add", .add), ("sub", .sub), ("mul", .mul), ("div", .div), ("mod", .mod)]

def CompareOp.table : List (String × CompareOp) :=
  [("eq", .eq), ("not_eq", .notEq), ("greater", .greater), ("greater_eq", .greaterEq),
    ("less", .less), ("less_eq", .lessEq)]

def Family.table : List (String × Family) :=
  [("player", .player), ("entity", .entity), ("game", .game), ("var", .variable),
    ("control", .control)]

/-- The name of an alternative in its table. -/
def nameIn {α : Type} [DecidableEq α] (table : List (String × α)) (a : α) : Json :=
  .str (((table.find? fun e => e.2 = a).map Prod.fst).getD "")

/-! ## Writing -/

def Ident.toJson (i : Ident) : Json := .obj [("name", .str i.name), ("span", i.span.toJson)]

def VarRef.toJson (v : VarRef) : Json :=
  .obj [("name", v.name.toJson), ("scope", documentOption (fun s : Scope => .str s.label) v.scope)]

def SettingValue.toJson : SettingValue → Json
  | .number x => .obj [("number", .float x)]
  | .text s => .obj [("text", .str s)]

def Setting.toJson (s : Setting) : Json := .obj [("name", s.name.toJson), ("value", s.value.toJson)]

def Constant.toJson : Constant → Json
  | .text s => .obj [("text", .str s)]
  | .number x => .obj [("number", .float x)]
  | .location x y z pitch yaw =>
    .obj [("location", .obj [("x", .float x), ("y", .float y), ("z", .float z),
      ("pitch", .float pitch), ("yaw", .float yaw)])]
  | .vector x y z => .obj [("vector", .obj [("x", .float x), ("y", .float y), ("z", .float z)])]
  | .sound name pitch volume =>
    .obj [("sound", .obj [("name", .str name), ("pitch", .float pitch), ("volume", .float volume)])]
  | .potion name duration level =>
    .obj [("potion", .obj [("name", .str name), ("duration", .float duration),
      ("level", .float level)])]
  | .particle name settings =>
    .obj [("particle", .obj [("name", .str name), ("fields", .arr (settings.map Setting.toJson))])]
  | .item payload => .obj [("item", .str payload)]

def Expr.toJson : Expr → Json
  | .constant c span => .obj [("kind", c.toJson), ("span", span.toJson)]
  | .variable v span => .obj [("kind", .obj [("var", v.toJson)]), ("span", span.toJson)]
  | .gameValue name target span =>
    .obj [("kind", .obj [("game_value", .obj [("name", name.toJson),
      ("target", documentOption Ident.toJson target)])]), ("span", span.toJson)]
  | .binary op lhs rhs span =>
    .obj [("kind", .obj [("binary", .obj [("op", nameIn BinaryOp.table op), ("lhs", lhs.toJson),
      ("rhs", rhs.toJson)])]), ("span", span.toJson)]

def TagChoice.toJson (t : TagChoice) : Json :=
  .obj [("name", .str t.name), ("option", .str t.option), ("span", t.span.toJson)]

def ActionCall.toJson (c : ActionCall) : Json :=
  .obj [("namespace", nameIn Family.table c.family), ("name", c.name.toJson),
    ("args", .arr (c.args.map Expr.toJson)), ("tags", .arr (c.tags.map TagChoice.toJson)),
    ("target", documentOption Ident.toJson c.target), ("span", c.span.toJson)]

def Condition.toJson : Condition → Json
  | .compare op lhs rhs span =>
    .obj [("compare", .obj [("op", nameIn CompareOp.table op), ("lhs", lhs.toJson),
      ("rhs", rhs.toJson), ("span", span.toJson)])]
  | .check call => .obj [("check", call.toJson)]
  | .not c => .obj [("not", c.toJson)]

def LoopKind.toJson : LoopKind → Json
  | .times count => .obj [("times", count.toJson)]
  | .forever => .str "forever"
  | .whilst c => .obj [("while", c.toJson)]
  | .forEach var list => .obj [("for_each", .obj [("var", var.toJson), ("list", list.toJson)])]
  | .range var first last =>
    .obj [("range", .obj [("var", var.toJson), ("start", first.toJson), ("end", last.toJson)])]

/-- A block of statements that have been written. -/
def blockJson (statements : List Json) (span : Span) : Json :=
  .obj [("stmts", .arr statements), ("span", span.toJson)]

mutual

def Statement.toJson : Statement → Json
  | .action a => .obj [("action", a.toJson)]
  | .declare var value span =>
    .obj [("let", .obj [("var", var.toJson), ("value", documentOption Expr.toJson value),
      ("span", span.toJson)])]
  | .assign target op value span =>
    .obj [("assign", .obj [("target", target.toJson), ("op", nameIn AssignOp.table op),
      ("value", value.toJson), ("span", span.toJson)])]
  | .branch b => .obj [("if", b.toJson)]
  | .loop kind body bodySpan span =>
    .obj [("repeat", .obj [("kind", kind.toJson),
      ("body", blockJson (Statement.toJsonAll body) bodySpan), ("span", span.toJson)])]
  | .call name args span =>
    .obj [("call", .obj [("name", name.toJson), ("args", .arr (args.map Expr.toJson)),
      ("span", span.toJson)])]
  | .start name span => .obj [("start", .obj [("name", name.toJson), ("span", span.toJson)])]
  | .wait duration tags span =>
    .obj [("wait", .obj [("duration", documentOption Expr.toJson duration),
      ("tags", .arr (tags.map TagChoice.toJson)), ("span", span.toJson)])]
  | .leave span => .obj [("return", span.toJson)]
  | .stop span => .obj [("break", span.toJson)]
  | .skip span => .obj [("continue", span.toJson)]

def Branch.toJson : Branch → Json
  | .mk condition body bodySpan rest span =>
    .obj [("condition", condition.toJson),
      ("then_block", blockJson (Statement.toJsonAll body) bodySpan),
      ("else_branch", rest.toJson), ("span", span.toJson)]

def Otherwise.toJson : Otherwise → Json
  | .nothing => .null
  | .block body bodySpan => .obj [("block", blockJson (Statement.toJsonAll body) bodySpan)]
  | .branch b => .obj [("if", b.toJson)]

def Statement.toJsonAll : List Statement → List Json
  | [] => []
  | s :: rest => s.toJson :: Statement.toJsonAll rest

end

def Item.toJson : Item → Json
  | .event kind name body bodySpan span =>
    .obj [("event", .obj [("kind", .str kind.label), ("name", name.toJson),
      ("body", blockJson (Statement.toJsonAll body) bodySpan), ("span", span.toJson)])]
  | .function name params body bodySpan span =>
    .obj [("function", .obj [("name", name.toJson), ("params", .arr (params.map Ident.toJson)),
      ("body", blockJson (Statement.toJsonAll body) bodySpan), ("span", span.toJson)])]
  | .process name body bodySpan span =>
    .obj [("process", .obj [("name", name.toJson),
      ("body", blockJson (Statement.toJsonAll body) bodySpan), ("span", span.toJson)])]

/-! ## Reading -/

/-- The span of a record; unknown when it is left out. -/
def spanOf (r : Json.Record) : Option Span := r.orElse "span" Span.ofJson? .unknown

def Ident.ofJson? (j : Json) : Option Ident := do
  let r ← j.record? ["name", "span"]
  let name ← r.required "name" Json.string?
  let span ← spanOf r
  return { name, span }

def VarRef.ofJson? (j : Json) : Option VarRef := do
  let r ← j.record? ["name", "scope"]
  let name ← r.required "name" Ident.ofJson?
  let scope ← r.orElse "scope" (Json.nullable? Scope.ofJson?) none
  return { name, scope }

def SettingValue.ofJson? (j : Json) : Option SettingValue := do
  let (name, content) ← j.choice?
  let content ← content
  match name with
  | "number" => return .number (← content.double?)
  | "text" => return .text (← content.string?)
  | _ => none

def Setting.ofJson? (j : Json) : Option Setting := do
  let r ← j.record? ["name", "value"]
  let name ← r.required "name" Ident.ofJson?
  let value ← r.required "value" SettingValue.ofJson?
  return { name, value }

/-- A constant, by the name of its kind. -/
def Constant.ofContent? (name : String) (content : Json) : Option Constant :=
  match name with
  | "text" => do return .text (← content.string?)
  | "number" => do return .number (← content.double?)
  | "location" => do
    let r ← content.object?
    let x ← r.required "x" Json.double?
    let y ← r.required "y" Json.double?
    let z ← r.required "z" Json.double?
    let pitch ← r.orElse "pitch" Json.double? .zero
    let yaw ← r.orElse "yaw" Json.double? .zero
    return .location x y z pitch yaw
  | "vector" => do
    let r ← content.object?
    let x ← r.required "x" Json.double?
    let y ← r.required "y" Json.double?
    let z ← r.required "z" Json.double?
    return .vector x y z
  | "sound" => do
    let r ← content.object?
    let name ← r.required "name" Json.string?
    let pitch ← r.required "pitch" Json.double?
    let volume ← r.required "volume" Json.double?
    return .sound name pitch volume
  | "potion" => do
    let r ← content.object?
    let name ← r.required "name" Json.string?
    let duration ← r.required "duration" Json.double?
    let level ← r.required "level" Json.double?
    return .potion name duration level
  | "particle" => do
    let r ← content.object?
    let name ← r.required "name" Json.string?
    let settings ← r.orElse "fields" (Json.list? Setting.ofJson?) []
    return .particle name settings
  | "item" => do return .item (← content.string?)
  | _ => none

/-- The expression of a document, whose height is at most `fuel`. -/
def Expr.ofJsonWithin? : Nat → Json → Option Expr
  | 0, _ => none
  | fuel + 1, j => do
    let r ← j.record? ["kind", "span"]
    let (name, content) ← (← r.get? "kind").choice?
    let content ← content
    match name with
    | "var" =>
      let v ← VarRef.ofJson? content
      return .variable v (← spanOf r)
    | "game_value" =>
      let g ← content.object?
      let name ← g.required "name" Ident.ofJson?
      let target ← g.orElse "target" (Json.nullable? Ident.ofJson?) none
      return .gameValue name target (← spanOf r)
    | "binary" =>
      let b ← content.object?
      let op ← b.required "op" (Json.name? BinaryOp.table)
      let lhs ← b.required "lhs" (Expr.ofJsonWithin? fuel)
      let rhs ← b.required "rhs" (Expr.ofJsonWithin? fuel)
      return .binary op lhs rhs (← spanOf r)
    | name =>
      let c ← Constant.ofContent? name content
      return .constant c (← spanOf r)

def Expr.ofJson? (j : Json) : Option Expr := Expr.ofJsonWithin? j.height j

def TagChoice.ofJson? (j : Json) : Option TagChoice := do
  let r ← j.record? ["name", "option", "span"]
  let name ← r.required "name" Json.string?
  let option ← r.required "option" Json.string?
  let span ← spanOf r
  return { name, option, span }

def ActionCall.ofJson? (j : Json) : Option ActionCall := do
  let r ← j.record? ["namespace", "name", "args", "tags", "target", "span"]
  let family ← r.required "namespace" (Json.name? Family.table)
  let name ← r.required "name" Ident.ofJson?
  let args ← r.orElse "args" (Json.list? Expr.ofJson?) []
  let tags ← r.orElse "tags" (Json.list? TagChoice.ofJson?) []
  let target ← r.orElse "target" (Json.nullable? Ident.ofJson?) none
  let span ← spanOf r
  return { family, name, args, tags, target, span }

/-- The condition of a document, whose height is at most `fuel`. -/
def Condition.ofJsonWithin? : Nat → Json → Option Condition
  | 0, _ => none
  | fuel + 1, j => do
    let (name, content) ← j.choice?
    let content ← content
    match name with
    | "compare" =>
      let r ← content.object?
      let op ← r.required "op" (Json.name? CompareOp.table)
      let lhs ← r.required "lhs" Expr.ofJson?
      let rhs ← r.required "rhs" Expr.ofJson?
      return .compare op lhs rhs (← spanOf r)
    | "check" => return .check (← ActionCall.ofJson? content)
    | "not" => return .not (← Condition.ofJsonWithin? fuel content)
    | _ => none

def Condition.ofJson? (j : Json) : Option Condition := Condition.ofJsonWithin? j.height j

def LoopKind.ofJson? (j : Json) : Option LoopKind := do
  match ← j.choice? with
  | ("forever", none) | ("forever", some .null) => return .forever
  | ("times", some content) => return .times (← Expr.ofJson? content)
  | ("while", some content) => return .whilst (← Condition.ofJson? content)
  | ("for_each", some content) =>
    let r ← content.object?
    let var ← r.required "var" VarRef.ofJson?
    let list ← r.required "list" Expr.ofJson?
    return .forEach var list
  | ("range", some content) =>
    let r ← content.object?
    let var ← r.required "var" VarRef.ofJson?
    let first ← r.required "start" Expr.ofJson?
    let last ← r.required "end" Expr.ofJson?
    return .range var first last
  | _ => none

/-- A block whose statements `read` accepts. -/
def block? (read : Json → Option Statement) (j : Json) : Option (List Statement × Span) := do
  let r ← j.record? ["stmts", "span"]
  let body ← r.required "stmts" (Json.list? read)
  return (body, ← spanOf r)

mutual

/-- The statement of a document, whose height is at most `fuel`. -/
def Statement.ofJsonWithin? : Nat → Json → Option Statement
  | 0, _ => none
  | fuel + 1, j => do
    let (name, content) ← j.choice?
    let content ← content
    match name with
    | "action" => return .action (← ActionCall.ofJson? content)
    | "let" =>
      let r ← content.record? ["var", "value", "span"]
      let var ← r.required "var" VarRef.ofJson?
      let value ← r.orElse "value" (Json.nullable? Expr.ofJson?) none
      return .declare var value (← spanOf r)
    | "assign" =>
      let r ← content.record? ["target", "op", "value", "span"]
      let target ← r.required "target" VarRef.ofJson?
      let op ← r.required "op" (Json.name? AssignOp.table)
      let value ← r.required "value" Expr.ofJson?
      return .assign target op value (← spanOf r)
    | "if" => return .branch (← Branch.ofJsonWithin? fuel content)
    | "repeat" =>
      let r ← content.record? ["kind", "body", "span"]
      let kind ← r.required "kind" LoopKind.ofJson?
      let (body, bodySpan) ← r.required "body" (block? (Statement.ofJsonWithin? fuel))
      return .loop kind body bodySpan (← spanOf r)
    | "call" =>
      let r ← content.record? ["name", "args", "span"]
      let name ← r.required "name" Ident.ofJson?
      let args ← r.orElse "args" (Json.list? Expr.ofJson?) []
      return .call name args (← spanOf r)
    | "start" =>
      let r ← content.record? ["name", "span"]
      let name ← r.required "name" Ident.ofJson?
      return .start name (← spanOf r)
    | "wait" =>
      let r ← content.record? ["duration", "tags", "span"]
      let duration ← r.orElse "duration" (Json.nullable? Expr.ofJson?) none
      let tags ← r.orElse "tags" (Json.list? TagChoice.ofJson?) []
      return .wait duration tags (← spanOf r)
    | "return" => return .leave (← Span.ofJson? content)
    | "break" => return .stop (← Span.ofJson? content)
    | "continue" => return .skip (← Span.ofJson? content)
    | _ => none

def Branch.ofJsonWithin? : Nat → Json → Option Branch
  | 0, _ => none
  | fuel + 1, j => do
    let r ← j.record? ["condition", "then_block", "else_branch", "span"]
    let condition ← r.required "condition" Condition.ofJson?
    let (body, bodySpan) ← r.required "then_block" (block? (Statement.ofJsonWithin? fuel))
    let rest ← r.orElse "else_branch" (Otherwise.ofJsonWithin? fuel) .nothing
    return .mk condition body bodySpan rest (← spanOf r)

def Otherwise.ofJsonWithin? : Nat → Json → Option Otherwise
  | 0, _ => none
  | fuel + 1, j =>
    match j with
    | .null => some .nothing
    | j => do
      let (name, content) ← j.choice?
      let content ← content
      match name with
      | "block" =>
        let (body, bodySpan) ← block? (Statement.ofJsonWithin? fuel) content
        return .block body bodySpan
      | "if" => return .branch (← Branch.ofJsonWithin? fuel content)
      | _ => none

end

def Statement.ofJson? (j : Json) : Option Statement := Statement.ofJsonWithin? j.height j

def Item.ofJson? (j : Json) : Option Item := do
  let (name, content) ← j.choice?
  let content ← content
  match name with
  | "event" =>
    let r ← content.record? ["kind", "name", "body", "span"]
    let kind ← r.required "kind" EventKind.ofJson?
    let name ← r.required "name" Ident.ofJson?
    let (body, bodySpan) ← r.required "body" (block? Statement.ofJson?)
    return .event kind name body bodySpan (← spanOf r)
  | "function" =>
    let r ← content.record? ["name", "params", "body", "span"]
    let name ← r.required "name" Ident.ofJson?
    let params ← r.orElse "params" (Json.list? Ident.ofJson?) []
    let (body, bodySpan) ← r.required "body" (block? Statement.ofJson?)
    return .function name params body bodySpan (← spanOf r)
  | "process" =>
    let r ← content.record? ["name", "body", "span"]
    let name ← r.required "name" Ident.ofJson?
    let (body, bodySpan) ← r.required "body" (block? Statement.ofJson?)
    return .process name body bodySpan (← spanOf r)
  | _ => none

def toJson (s : Script) : Json :=
  .obj [("items", .arr (s.items.map Item.toJson)), ("span", s.span.toJson)]

def ofJson? (j : Json) : Option Script := do
  let r ← j.record? ["items", "span"]
  let items ← r.required "items" (Json.list? Item.ofJson?)
  let span ← spanOf r
  return { items, span }

/-! ## Documents of the parser -/

/-- What the parser reports when it fails. -/
structure ParseError where
  message : String
  span : Span
deriving DecidableEq, Repr

def ParseError.ofJson? (j : Json) : Option ParseError := do
  let r ← j.record? ["message", "span"]
  let message ← r.required "message" Json.string?
  let span ← r.required "span" Span.ofJson?
  return { message, span }

/-- Why there is no script: the document is not one, or it reports that the parser failed. -/
inductive ReadError
  | document
  | parser (e : ParseError)
deriving DecidableEq, Repr

/-- The script in a document of the parser. -/
def ofDocument (j : Json) : Except ReadError Script :=
  match j.get? "syntax_error" with
  | some e =>
    match ParseError.ofJson? e with
    | some e => .error (.parser e)
    | none => .error .document
  | none =>
    match ofJson? j with
    | some s => .ok s
    | none => .error .document

/-- The script in the text of a document of the parser. -/
def ofText (text : String) : Except ReadError Script :=
  match Json.read? text with
  | some j => ofDocument j
  | none => .error .document

end Script

end Plotline
