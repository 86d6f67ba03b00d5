import Plotline.Bytes.Base64
import Plotline.Bytes.Gzip
import Plotline.Json.Printer
import Plotline.Json.Reader
import Plotline.Text.Blank
import Plotline.Text.Utf8
import Plotline.Diagnostic

/-!
# Codes

A code is the compact text of a document, compressed and written as base 64 text.
-/

namespace Plotline

/-- Why a text is no code: it is not base 64, does not hold a compressed member, or that does not
hold a document. -/
inductive CodeError
  | base64
  | compression
  | document
deriving DecidableEq, Repr

def CodeError.code (_ : CodeError) : FaultCode := ⟨500⟩

namespace Json

/-- The code of a document. -/
def code (j : Json) : String := Base64.encode (Gzip.compress (Text.Utf8.encode j.compact))

/-- The document of a code. Blanks around the code do not count. -/
def ofCode (code : String) : Except CodeError Json :=
  match Base64.decode? (Text.trim code) with
  | none => .error .base64
  | some compressed =>
    match Gzip.decompress? compressed with
    | none => .error .compression
    | some bytes =>
      match Text.Utf8.decode bytes with
      | .error _ => .error .document
      | .ok text =>
        match read? text with
        | none => .error .document
        | some j => .ok j

end Json

end Plotline
