import Plotline.Program.Basic
import Plotline.Diagnostic

/-!
# Why a unit does not fit
-/

namespace Plotline

/-- An action that leaves a loop, goes on with its next turn, or leaves a function. -/
inductive Exit
  | leave
  | stop
  | skip
deriving DecidableEq, Repr

def Exit.action : Exit → String
  | .leave => "Return"
  | .stop => "StopRepeat"
  | .skip => "Skip"

inductive FittingError
  | unsplittable (unit construct : String) (capacity : Nat)
  | splitExit (unit construct : String) (exit : Exit)
deriving DecidableEq, Repr

namespace FittingError

def message : FittingError → String
  | .unsplittable unit construct capacity =>
    "`" ++ construct ++ "` in `" ++ unit ++ "` does not fit a template of " ++ toString capacity ++
      " slots"
  | .splitExit unit construct exit =>
    "splitting `" ++ construct ++ "` in `" ++ unit ++ "` would move `" ++ exit.action ++
      "` into a continuation"

def code : FittingError → FaultCode
  | .unsplittable .. => ⟨300⟩
  | .splitExit .. => ⟨301⟩

def suggestion : FittingError → String
  | .unsplittable .. =>
    "move part of the bracket's setup into a separate statement, or use a larger plot"
  | .splitExit .. => "move the statements before the exit into a function, or use a larger plot"

def diagnostic (e : FittingError) : Diagnostic :=
  { code := e.code, message := e.message, suggestion := some e.suggestion }

end FittingError

end Plotline
