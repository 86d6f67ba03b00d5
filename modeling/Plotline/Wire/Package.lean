import Plotline.Wire.Code
import Plotline.Wire.Document

/-!
# Packages

The codes of a program's templates, a single artifact that holds all of them, and the commands
that hand them to a player.
-/

namespace Plotline

/-- The version of documents on the wire. -/
def wireVersion : Nat := 1

/-- The code of a template with its name. -/
structure TemplateCode where
  name : String
  code : String
deriving DecidableEq, Repr

namespace TemplateCode

def ofTemplate (t : Template) : Except EncodingError TemplateCode := do
  let document ← t.document
  return ⟨t.name, document.toJson.code⟩

def ofJson? (j : Json) : Option TemplateCode := do
  let r ← j.record? ["name", "code"]
  let name ← r.required "name" Json.string?
  let code ← r.required "code" Json.string?
  return { name, code }

/-- The data of the item that carries the template. -/
def data (t : TemplateCode) : Json :=
  .obj [("author", .str "kindling"), ("code", .str t.code), ("name", .str t.name),
    ("version", .int wireVersion)]

/-- The name of the item that carries the template. -/
def display (t : TemplateCode) : Json := .obj [("text", .str t.name)]

end TemplateCode

/-- A character of a text between single quotes. -/
def escapedChar (c : Char) : List Char := if c = '\\' ∨ c = '\'' then ['\\', c] else [c]

/-- A text between single quotes. A backslash makes the next character plain. -/
def singleQuoted (text : String) : String :=
  "'" ++ String.ofList (text.toList.flatMap escapedChar) ++ "'"

/-- The command that gives a player the item of a template. -/
def TemplateCode.giveCommand (t : TemplateCode) : String :=
  "/give @p ender_chest\x7bPublicBukkitValues:\x7b\"hypercube:codetemplatedata\":" ++
    singleQuoted t.data.compact ++ "\x7d,display:\x7bName:" ++ singleQuoted t.display.compact ++
    "\x7d\x7d 1"

/-- The templates of a program for placing them by hand. -/
structure Package where
  templates : List TemplateCode
deriving DecidableEq, Repr

namespace Package

def ofTemplates (templates : List Template) : Except EncodingError Package := do
  return ⟨← templates.mapM TemplateCode.ofTemplate⟩

/-- The document that holds all codes. -/
def artifactDocument (p : Package) : Json :=
  .obj [("templates", .arr (p.templates.map fun t =>
      .obj [("code", .str t.code), ("name", .str t.name)])),
    ("version", .int wireVersion)]

def artifact (p : Package) : String := p.artifactDocument.code

def giveCommands (p : Package) : List String := p.templates.map TemplateCode.giveCommand

end Package

end Plotline
