import Plotline.Catalog
import Plotline.Diagnostic
import Plotline.Numeral.Layout

/-!
# Faults of scripts

Why a script cannot be lowered. Every fault is blamed on a span of the script.
-/

namespace Plotline

open Numeral

/-- Why a constant has no value. -/
inductive ConstantFault
  | notRepresentable (x : Double)
  | notWhole (what : String) (x : Double)
  | notPercent (what : String) (n : Int)
  | color
  | expectsText (setting : String)
  | expectsNumber (setting : String)
  | unknownSetting (setting : String)
deriving DecidableEq, Repr

def ConstantFault.message : ConstantFault → String
  | .notRepresentable x => x.plain ++ " is not a representable number"
  | .notWhole what x => what ++ " must be a whole number, found " ++ x.plain
  | .notPercent what n => what ++ " must be between 0 and 100, found " ++ toString n
  | .color => "particle color must be `#RRGGBB` or a packed RGB number"
  | .expectsText setting => "particle field `" ++ setting ++ "` expects text"
  | .expectsNumber setting => "particle field `" ++ setting ++ "` expects a number"
  | .unknownSetting setting => "unknown particle field `" ++ setting ++ "`"

/-- What stands where it is not allowed. -/
inductive Misplacement
  | stop
  | skip
  | target (block : BlockKind)
  | controlCheck
deriving DecidableEq, Repr

def Misplacement.describe : Misplacement → String
  | .stop => "`break` outside a loop"
  | .skip => "`continue` outside a loop"
  | .target block => "a target selector on a " ++ block.id ++ " block"
  | .controlCheck => "a control action in a condition"

inductive LoweringFault
  | unknownInstruction (block : BlockKind) (name : String)
  | argumentCount (action : String) (expected : Arity) (found : Nat)
  | argumentKind (action : String) (position : Nat) (param : String) (expected : ArgKind)
    (found : ValueKind)
  | unresolvedVariable (name : String)
  | unknownFunction (name : String)
  | unknownTag (action tag : String)
  | invalidTagOption (tag option : String) (allowed : List String)
  | unknownSelector (name : String)
  | invalidLiteral (reason : ConstantFault)
  | misplaced (what : Misplacement)
  | duplicateDefinition (name : String)
  | unknownEvent (name : String)
deriving DecidableEq, Repr

namespace LoweringFault

def message : LoweringFault → String
  | .unknownInstruction block name => "unknown " ++ block.id ++ " action `" ++ name ++ "`"
  | .argumentCount action expected found =>
    "`" ++ action ++ "` takes " ++ expected.label ++ " argument(s), found " ++ toString found
  | .argumentKind action position param expected found =>
    "argument " ++ toString position ++ " (`" ++ param ++ "`) of `" ++ action ++ "` must be " ++
      expected.label ++ ", found " ++ found.label
  | .unresolvedVariable name => "unresolved variable `" ++ name ++ "`"
  | .unknownFunction name => "unknown function or process `" ++ name ++ "`"
  | .unknownTag action tag => "`" ++ action ++ "` has no tag `" ++ tag ++ "`"
  | .invalidTagOption tag option _ => "`" ++ option ++ "` is not an option of tag `" ++ tag ++ "`"
  | .unknownSelector name => "unknown target selector `" ++ name ++ "`"
  | .invalidLiteral reason => "invalid literal: " ++ reason.message
  | .misplaced what => what.describe ++ " is not allowed here"
  | .duplicateDefinition name => "`" ++ name ++ "` is defined more than once"
  | .unknownEvent name => "unknown event `" ++ name ++ "`"

def code : LoweringFault → FaultCode
  | .unknownInstruction .. => ⟨200⟩
  | .argumentCount .. => ⟨201⟩
  | .argumentKind .. => ⟨202⟩
  | .unresolvedVariable .. => ⟨203⟩
  | .unknownFunction .. => ⟨204⟩
  | .unknownTag .. => ⟨205⟩
  | .invalidTagOption .. => ⟨206⟩
  | .unknownSelector .. => ⟨207⟩
  | .invalidLiteral .. => ⟨208⟩
  | .misplaced .. => ⟨209⟩
  | .duplicateDefinition .. => ⟨210⟩
  | .unknownEvent .. => ⟨211⟩

/-- What may help against the fault. -/
def suggestion? : LoweringFault → Option String
  | .invalidTagOption _ _ allowed => some ("expected one of: " ++ ", ".intercalate allowed)
  | .unresolvedVariable name =>
    some ("declare it with `let " ++ name ++ "` or annotate its scope, e.g. `game " ++ name ++ "`")
  | _ => none

end LoweringFault

structure LoweringError where
  fault : LoweringFault
  span : Span
deriving DecidableEq, Repr

namespace LoweringError

def message (e : LoweringError) : String := e.span.label ++ ": " ++ e.fault.message

def diagnostic (e : LoweringError) : Diagnostic :=
  { code := e.fault.code, message := e.fault.message, suggestion := e.fault.suggestion? : Diagnostic
    }.atSpan e.span

end LoweringError

end Plotline
