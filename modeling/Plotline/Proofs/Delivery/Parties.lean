import Plotline.Delivery.Client
import Plotline.Proofs.Delivery.Dialogue

/-!
# A session and a client that run side by side

The session and its client are joined by two channels, one for each direction. Both take out what
was put in, in the same order; apart from that each goes at its own pace. The client may answer a
message that it has received with one line of any bytes, or not at all, as late as it likes, and may
hang up at any time. The session may give up waiting at any time, also while an answer is on its
way, and once the client has hung up the answers that are still on their way may be lost.

A `Move` is one step of one of them, or of the caller who has batches delivered; what the session
does between two operations on its channels is part of the step. A sequence of moves is an
interleaving, and `Parties.Reachable` are the states that some interleaving leads to.
-/

namespace Plotline

/-! ## Channels -/

/-- Everything that was put into a channel, and how much of it was taken out. -/
structure Channel (α : Type) where
  lines : List α := []
  taken : Nat := 0

namespace Channel

variable {α : Type}

def put (c : Channel α) (a : α) : Channel α := { c with lines := c.lines ++ [a] }

/-- What is taken out next. -/
def next? (c : Channel α) : Option α := c.lines[c.taken]?

/-- The channel after the next line was taken out. -/
def advance (c : Channel α) : Channel α := { c with taken := c.taken + 1 }

/-- What has been taken out, in order. -/
def read (c : Channel α) : List α := c.lines.take c.taken

theorem read_advance {c : Channel α} {a : α} (h : c.next? = some a) :
    c.advance.read = c.read ++ [a] := by
  have hnext : c.lines[c.taken]? = some a := h
  rw [read, advance, List.take_add_one, hnext]
  rfl

end Channel

/-- The two channels. Every line of the client is kept with the number of the message that it
answers; the session sees the line only. -/
structure Connection where
  toClient : Channel String := {}
  toSession : Channel (Nat × List UInt8) := {}
  isGone : Bool := false

/-! ## Calls -/

/-- A batch that was handed to the session: the number of its first template and the number of
messages that were sent before it. -/
structure Batch where
  templates : List TemplateCode
  sequence : UInt64
  first : Nat

/-- A delivery that is over, and the wire at the moment when it ended. -/
structure Return where
  batch : Batch
  result : Except DeliveryError Progress
  wire : Connection

/-- The progress that a delivery reports, whether it succeeds or fails. -/
def Return.progress? (r : Return) : Option Progress :=
  match r.result with
  | .ok p => some p
  | .error e => e.progress?

/-! ## Moves -/

/-- Both parties, and the deliveries so far. -/
structure Parties where
  session : Session := {}
  wire : Connection := {}
  call : Option (Batch × Dialogue (Except DeliveryError Progress × Session)) := none
  returned : List Return := []

inductive Move
  /-- A batch is handed to the session. -/
  | deliver (templates : List TemplateCode)
  /-- The session sends its line, or takes out the next line of the client. -/
  | proceed
  /-- The session finds that the client has hung up. -/
  | lose (reason : String)
  /-- The session has waited long enough. -/
  | timeOut
  /-- The client takes out the next message. -/
  | read
  /-- The client answers the message with the given number. -/
  | answer (message : Nat) (line : List UInt8)
  | hangUp

namespace Parties

/-- The session has come to its next operation or to the end of the delivery. -/
def resume (w : Parties) (b : Batch) (wire : Connection) :
    Dialogue (Except DeliveryError Progress × Session) → Parties
  | .done (result, session) =>
    { w with session, wire, call := none, returned := w.returned ++ [⟨b, result, wire⟩] }
  | rest => { w with wire, call := some (b, rest) }

/-- Both parties after a move, if the move is possible. -/
def move? (milliseconds : Nat) (w : Parties) : Move → Option Parties
  | .deliver templates =>
    match w.call with
    | none =>
      let b : Batch := ⟨templates, w.session.next, w.wire.toClient.lines.length⟩
      some (w.resume b w.wire (w.session.deliver Dialogue.link milliseconds templates))
    | some _ => none
  | .proceed =>
    match w.call with
    | some (b, .send line next) =>
      some (w.resume b { w.wire with toClient := w.wire.toClient.put line } (next none))
    | some (b, .receive next) =>
      w.wire.toSession.next?.map fun a =>
        w.resume b { w.wire with toSession := w.wire.toSession.advance }
          (next (Client.lineReply a.2))
    | _ => none
  | .lose reason =>
    match w.call with
    | some (b, .send _ next) =>
      if w.wire.isGone then some (w.resume b w.wire (next (some reason))) else none
    | some (b, .receive next) =>
      if w.wire.isGone then some (w.resume b w.wire (next (.lost reason))) else none
    | _ => none
  | .timeOut =>
    match w.call with
    | some (b, .receive next) => some (w.resume b w.wire (next .timeout))
    | _ => none
  | .read =>
    if w.wire.isGone then none
    else w.wire.toClient.next?.map fun _ =>
      { w with wire := { w.wire with toClient := w.wire.toClient.advance } }
  | .answer message line =>
    let c := w.wire.toSession
    if w.wire.isGone = false ∧ message < w.wire.toClient.taken ∧
        message ∉ c.lines.map Prod.fst then
      some { w with wire := { w.wire with toSession := c.put (message, line) } }
    else none
  | .hangUp => some { w with wire := { w.wire with isGone := true } }

/-- Some interleaving leads to the state, from a new session on. -/
def Reachable (milliseconds : Nat) (w : Parties) : Prop :=
  ∃ moves : List Move, moves.foldlM (move? milliseconds) {} = some w

/-- What holds at first and is kept by every move holds in every state that can be reached. -/
theorem Reachable.induction {milliseconds : Nat} {P : Parties → Prop} (hstart : P {})
    (hstep : ∀ w move w', P w → w.move? milliseconds move = some w' → P w') {w : Parties}
    (h : Reachable milliseconds w) : P w := by
  obtain ⟨moves, hmoves⟩ := h
  generalize hw₀ : ({} : Parties) = w₀ at hmoves
  have hstart' : P w₀ := hw₀ ▸ hstart
  clear hw₀ hstart
  induction moves generalizing w₀ with
  | nil =>
    cases hmoves
    exact hstart'
  | cons move moves ih =>
    rw [List.foldlM_cons] at hmoves
    obtain ⟨w₁, hmove, hrest⟩ := Option.bind_eq_some_iff.mp hmoves
    exact ih w₁ hrest (hstep w₀ move w₁ hstart' hmove)

end Parties

end Plotline
