import Plotline.Delivery.Session
import Plotline.Text.Utf8

/-!
# A client that acts out a script

The client reads the lines it is sent in their order and answers each with the next act of its
script; without one it stays silent. An act is a delay, some bytes, and possibly the end of the
connection.

Time is counted in milliseconds and only passes while somebody waits. The client does all it can
before the session goes on.
-/

namespace Plotline

structure Act where
  delay : Nat
  bytes : List UInt8
  hangsUp : Bool
deriving DecidableEq, Repr

/-- The state of the client and of the connection: `busy` is an act that waits for its time,
`unread` are lines that the client has not read yet and `sent` are bytes that the session has not
read yet. -/
structure Client where
  now : Nat := 0
  script : List Act
  busy : Option (Nat × Act) := none
  unread : List String := []
  received : List String := []
  sent : List UInt8 := []
  isGone : Bool := false

namespace Client

/-- The client acts. -/
def act (c : Client) (a : Act) : Client :=
  { c with busy := none, sent := c.sent ++ a.bytes, isGone := a.hangsUp }

/-- The client reads lines until an act has to wait. -/
def readLines (c : Client) : List String → Client
  | [] => { c with unread := [] }
  | line :: lines =>
    let c := { c with received := c.received ++ [line] }
    match c.script with
    | [] => readLines c lines
    | a :: script =>
      let c := { c with script }
      if a.delay = 0 then
        let c := c.act a
        if c.isGone then { c with unread := lines } else readLines c lines
      else { c with busy := some (c.now + a.delay, a), unread := lines }

/-- The client goes on with the lines it has not read, unless it is busy or gone. -/
def goOn (c : Client) : Client :=
  if c.isGone ∨ c.busy.isSome then c else readLines c c.unread

/-- A client that begins with an act of its own. -/
def start (opening : Option Act) (script : List Act) : Client :=
  match opening with
  | none => { script }
  | some a =>
    if a.delay = 0 then ({ script } : Client).act a else { script, busy := some (a.delay, a) }

/-- A line is sent to the client. -/
def accept (line : String) (c : Client) : Option String × Client :=
  if c.isGone then (some "broken pipe", c)
  else (none, { c with unread := c.unread ++ [line] }.goOn)

/-- The bytes up to the first end of a line, that end included, and the bytes behind it. -/
def firstLine? : List UInt8 → Option (List UInt8 × List UInt8)
  | [] => none
  | b :: bs =>
    if b = 10 then some ([b], bs) else (firstLine? bs).map fun (line, rest) => (b :: line, rest)

/-- A line without its end. -/
def lineReply (bytes : List UInt8) : Reply :=
  match Text.Utf8.decode bytes with
  | .error e => .lost e.message
  | .ok text =>
    let withoutEnd := match text.toList.reverse with
      | '\n' :: '\r' :: rest => rest
      | '\n' :: rest => rest
      | rest => rest
    .line (String.ofList withoutEnd.reverse)

/-- What the session reads before `deadline`. The client may act at most `steps` times before. -/
def replyBefore (deadline : Nat) : Nat → Client → Reply × Client
  | 0, c => (.timeout, c)
  | steps + 1, c =>
    match firstLine? c.sent with
    | some (line, rest) => (lineReply line, { c with sent := rest })
    | none =>
      if c.isGone then
        if c.sent.isEmpty then (.lost "client closed the connection", c)
        else (lineReply c.sent, { c with sent := [] })
      else
        match c.busy with
        | some (time, a) =>
          if time ≤ deadline then
            replyBefore deadline steps ({ c with now := time }.act a).goOn
          else (.timeout, { c with now := deadline })
        | none => (.timeout, { c with now := deadline })

/-- The client as the far side of a session that waits for the given time. -/
def link (milliseconds : Nat) : Link (StateM Client) where
  send line := modifyGet (accept line)
  receive := modifyGet fun c => replyBefore (c.now + milliseconds) (c.unread.length + 2) c

/-- The client after at most `steps` more acts that had to wait for their time. -/
def waitedFor : Nat → Client → Client
  | 0, c => c
  | steps + 1, c =>
    match c.busy with
    | some (time, a) => waitedFor steps ({ c with now := time }.act a).goOn
    | none => c

/-- The client after the session is over: it still reads what it was sent, one act after the
other, until it hangs up. -/
def finished (c : Client) : Client := c.waitedFor (c.unread.length + 1)

end Client

end Plotline
