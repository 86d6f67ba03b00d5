import Plotline.Diagnostic

/-!
# Why a delivery stops
-/

namespace Plotline

/-- How many templates of a batch the client has confirmed, the first ones of the batch. -/
structure Progress where
  delivered : Nat
  total : Nat
deriving DecidableEq, Repr

namespace Progress

/-- The first index and the one behind the last of the templates that are confirmed. -/
def confirmed (p : Progress) : Nat × Nat := (0, p.delivered)

/-- The first index and the one behind the last of the templates that are not confirmed. -/
def unconfirmed (p : Progress) : Nat × Nat := (p.delivered, p.total)

def isComplete (p : Progress) : Bool := p.delivered = p.total

def label (p : Progress) : String :=
  toString p.delivered ++ " of " ++ toString p.total ++ " templates delivered"

def toJson (p : Progress) : Json := .obj [("delivered", .int p.delivered), ("total", .int p.total)]

def ofJson? (j : Json) : Option Progress := do
  let r ← j.record? ["delivered", "total"]
  let delivered ← r.required "delivered" Json.nat64?
  let total ← r.required "total" Json.nat64?
  return { delivered, total }

end Progress

/-- The message whose answer is awaited. -/
inductive Awaited
  | template (index : Nat)
  | finish
deriving DecidableEq, Repr

def Awaited.label : Awaited → String
  | .template index => "template " ++ toString index
  | .finish => "finish"

inductive DeliveryError
  | refused (address reason : String)
  | timeout (awaited : Awaited) (milliseconds : Nat) (progress : Progress)
  | lost (reason : String) (progress : Progress)
  | rejected (index : Nat) (reason : String) (progress : Progress)
  | unexpected (response : String) (progress : Progress)
  | closed
deriving DecidableEq, Repr

namespace DeliveryError

def message : DeliveryError → String
  | .refused address reason => "could not connect to " ++ address ++ ": " ++ reason
  | .timeout awaited milliseconds progress =>
    "no acknowledgment for " ++ awaited.label ++ " within " ++ toString milliseconds ++ " ms (" ++
      progress.label ++ ")"
  | .lost reason progress => "connection lost: " ++ reason ++ " (" ++ progress.label ++ ")"
  | .rejected index reason progress =>
    "template " ++ toString index ++ " rejected: " ++ reason ++ " (" ++ progress.label ++ ")"
  | .unexpected response progress =>
    "unexpected response `" ++ response ++ "` (" ++ progress.label ++ ")"
  | .closed => "session already closed after an earlier failure"

def code : DeliveryError → FaultCode
  | .refused .. => ⟨400⟩
  | .timeout .. => ⟨401⟩
  | .lost .. => ⟨402⟩
  | .rejected .. => ⟨403⟩
  | .unexpected .. => ⟨404⟩
  | .closed => ⟨405⟩

/-- How far the delivery came, unless it never began. -/
def progress? : DeliveryError → Option Progress
  | .timeout _ _ p | .lost _ p | .rejected _ _ p | .unexpected _ p => some p
  | .refused .. | .closed => none

/-- What is left to do when some templates were placed. -/
def suggestion? (e : DeliveryError) : Option String :=
  match e.progress? with
  | some p =>
    if 0 < p.delivered then
      some ("templates 0.." ++ toString p.delivered ++ " were placed; redeliver " ++
        toString p.delivered ++ ".." ++ toString p.total ++ " after fixing the connection")
    else none
  | none => none

def diagnostic (e : DeliveryError) : Diagnostic :=
  { code := e.code, message := e.message, suggestion := e.suggestion? }

end DeliveryError

end Plotline
