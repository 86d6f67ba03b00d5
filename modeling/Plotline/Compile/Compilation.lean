import Plotline.Bytes.Sha256
import Plotline.Compile.Config
import Plotline.Fitting.Program
import Plotline.Fitting.Reassembly
import Plotline.Lowering.Script
import Plotline.Program.Listing
import Plotline.Wire.Package

/-!
# Compilation

From a script to the codes of its templates.
-/

namespace Plotline

/-- What is worth a warning although it stops nothing. -/
inductive Warning
  | sharedName (p : Promotion)
  | promoted (p : Promotion)
  | deliveryStopped (p : Progress) (e : DeliveryError)
deriving DecidableEq, Repr

namespace Warning

def message : Warning → String
  | .sharedName _ => "promoted variable shares a name with an existing game variable"
  | .promoted _ => "line variable spans several templates; promoted to game scope"
  | .deliveryStopped .. => "delivery stopped"

/-- What the warning is about, each with a label. -/
def details : Warning → List (String × Json)
  | .sharedName p | .promoted p => [("unit", .str p.unit), ("variable", .str p.name)]
  | .deliveryStopped p e =>
    [("delivered", .int p.delivered), ("total", .int p.total), ("error", .str e.message)]

def toJson (w : Warning) : Json := .obj (("message", .str w.message) :: w.details)

end Warning

/-- The warning about a delivery that went wrong, unless it never began. -/
def DeliveryError.warning? (e : DeliveryError) : Option Warning :=
  e.progress?.map fun p => .deliveryStopped p e

def Promotion.toJson (p : Promotion) : Json :=
  .obj [("unit", .str p.unit), ("variable", .str p.name), ("from", .str Scope.line.label),
    ("to", .str Scope.line.promoted.label)]

/-- The digest of a code, in hexadecimal digits. -/
def codeDigest (code : String) : String :=
  String.join ((Sha256.digest (Text.Utf8.encode code)).map fun b =>
    String.ofList [Nat.digitChar (b.toNat / 16), Nat.digitChar (b.toNat % 16)])

/-! ## Compilations -/

structure Compilation where
  program : Program
  fitted : FittedProgram
  package : Package

namespace Compilation

def templates (c : Compilation) : List Template := c.fitted.templates

def promotions (c : Compilation) : List Promotion := c.fitted.promotions

def codes (c : Compilation) : List TemplateCode := c.package.templates

def digests (c : Compilation) : List String := c.codes.map fun t => codeDigest t.code

def listing (c : Compilation) : String := "\n".intercalate (c.templates.map Template.listing)

def warnings (c : Compilation) : List Warning :=
  c.fitted.collisions.map .sharedName ++ c.promotions.map .promoted

end Compilation

/-- Compiles a script for plots of a tier. -/
def Script.compile (s : Script) (tier : Tier) : Except CompileError Compilation := do
  let program ← s.lower.mapError .lowering
  let fitted ← (program.fit tier.capacity).mapError .fitting
  let package ← (Package.ofTemplates fitted.templates).mapError .encoding
  return { program, fitted, package }

/-- Compiles the script in a document of the parser. -/
def compileText (text : String) (tier : Tier) : Except CompileError Compilation := do
  let script ← (Script.ofText text).mapError .ofReadError
  script.compile tier

/-! ## Results -/

/-- What became of a compilation. -/
structure CompileResult where
  tier : Tier
  outcome : Except CompileError Compilation

namespace CompileResult

def ofText (text : String) (tier : Tier) : CompileResult := ⟨tier, compileText text tier⟩

def succeeded (r : CompileResult) : Bool := r.outcome.isOk

def toJson (r : CompileResult) : Json :=
  match r.outcome with
  | .ok c =>
    .obj [("success", .bool true), ("tier", .str r.tier.name),
      ("templates",
        .arr (c.codes.map fun t => .obj [("name", .str t.name), ("code", .str t.code)])),
      ("digests", .arr (c.digests.map .str)),
      ("promotions", .arr (c.promotions.map Promotion.toJson)),
      ("artifact", .str c.package.artifact), ("diagnostics", .arr [])]
  | .error e =>
    .obj [("success", .bool false), ("tier", .str r.tier.name), ("templates", .arr []),
      ("digests", .arr []), ("promotions", .arr []), ("artifact", .null),
      ("diagnostics", .arr [e.diagnostic.toJson])]

end CompileResult

end Plotline
