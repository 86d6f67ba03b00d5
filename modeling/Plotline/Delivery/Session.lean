import Plotline.Delivery.Error
import Plotline.Delivery.Message

/-!
# Live sessions

A session delivers batches of templates to a client, one after the other: each message is sent
only after the one before it was answered well. After any failure the session is closed.

The connection is a `Link` in some monad, so that the same session runs over a socket and over a
client that is a state.
-/

namespace Plotline

/-- What comes of waiting for a line of the client. -/
inductive Reply
  | line (text : String)
  | timeout
  | lost (reason : String)
deriving DecidableEq, Repr

/-- A connection to a client. Sending gives a reason when the connection is lost. -/
structure Link (m : Type → Type) where
  send : String → m (Option String)
  receive : m Reply

/-- Sends a message and waits for the answer. -/
def Link.exchange {m : Type → Type} [Monad m] (link : Link m) (message : Message) : m Reply := do
  match ← link.send message.text with
  | some reason => return .lost reason
  | none => link.receive

/-! ## Answers -/

/-- What a reply to the first template that is not confirmed means. -/
def templateAnswer (milliseconds : Nat) (p : Progress) : Reply → Except DeliveryError Unit
  | .timeout => .error (.timeout (.template p.delivered) milliseconds p)
  | .lost reason => .error (.lost reason p)
  | .line text =>
    match Ack.ofText? text with
    | some ack =>
      if ack.index = some p.delivered ∧ ack.status = "success" then .ok ()
      else if ack.index = some p.delivered ∧ ack.status = "error" then
        .error (.rejected p.delivered (ack.error.getD "no reason given") p)
      else .error (.unexpected text p)
    | none => .error (.unexpected text p)

/-- What a reply to the end of a batch means. -/
def finishAnswer (milliseconds : Nat) (p : Progress) : Reply → Except DeliveryError Unit
  | .timeout => .error (.timeout .finish milliseconds p)
  | .lost reason => .error (.lost reason p)
  | .line text =>
    match Ack.ofText? text with
    | some ack => if ack.status = "complete" then .ok () else .error (.unexpected text p)
    | none => .error (.unexpected text p)

/-! ## Sessions -/

/-- Delivers the rest of a batch; also gives the next number of a template. -/
def deliverFrom {m : Type → Type} [Monad m] (link : Link m) (milliseconds : Nat) (p : Progress)
    (sequence : UInt64) : List TemplateCode → m (Except DeliveryError Progress × UInt64)
  | [] => do
    let reply ← link.exchange (.finish p.total)
    return ((finishAnswer milliseconds p reply).map fun _ => p, sequence)
  | t :: ts => do
    let reply ← link.exchange (.template sequence p.delivered t)
    match templateAnswer milliseconds p reply with
    | .error e => return (.error e, sequence + 1)
    | .ok () =>
      deliverFrom link milliseconds { p with delivered := p.delivered + 1 } (sequence + 1) ts

/-- A session has the number of its next template, in 64 bits, and is open until a delivery
fails. -/
structure Session where
  next : UInt64 := 0
  isOpen : Bool := true
deriving DecidableEq, Repr

/-- How many templates were sent, as long as the count fits. -/
def Session.sequence (s : Session) : Nat := s.next.toNat

/-- Delivers a batch. -/
def Session.deliver {m : Type → Type} [Monad m] (s : Session) (link : Link m) (milliseconds : Nat)
    (templates : List TemplateCode) : m (Except DeliveryError Progress × Session) := do
  if s.isOpen then
    let (result, sequence) ←
      deliverFrom link milliseconds ⟨0, templates.length⟩ s.next templates
    return (result, ⟨sequence, result.isOk⟩)
  else return (.error .closed, s)

end Plotline
