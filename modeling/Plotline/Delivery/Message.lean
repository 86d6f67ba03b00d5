import Plotline.Json.Draft
import Plotline.Wire.Package

/-!
# Messages of a session

Both sides of a session write one document per line. The session sends templates and, after the
last one, that it has finished. The client answers every message.
-/

namespace Plotline

/-- What a session sends. Templates are numbered over the whole session by `sequence` and within
their batch by `index`. -/
inductive Message
  | template (sequence : UInt64) (index : Nat) (code : TemplateCode)
  | finish (count : Nat)
deriving DecidableEq, Repr

namespace Message

def toJson : Message → Json
  | .template sequence index code =>
    .obj [("data", .obj [("code", .str code.code), ("name", .str code.name),
        ("version", .int wireVersion)]),
      ("index", .int index), ("seq", .int sequence.toNat), ("source", .str "kindling"),
      ("type", .str "template")]
  | .finish count => .obj [("count", .int count), ("type", .str "finish")]

/-- The line of the message. -/
def text (m : Message) : String := m.toJson.compact

end Message

/-- An answer of the client. -/
structure Ack where
  status : String
  index : Option Nat
  error : Option String
deriving DecidableEq, Repr

namespace Ack

/-- The answer that a line spells. -/
def ofText? (text : String) : Option Ack := do
  let draft ← Json.Draft.read? text
  let r ← draft.record? ["status", "index", "error"]
  let status ← r.required "status" Json.string?
  let index ← r.optional "index" Json.nat64?
  let error ← r.optional "error" Json.string?
  return { status, index, error }

end Ack

end Plotline
