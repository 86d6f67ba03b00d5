import Plotline.Delivery.Address
import Plotline.Delivery.Client
import Std.Async.DNS
import Std.Async.TCP
import Std.Async.Timer

/-!
# Sessions over sockets
-/

namespace Plotline

open Std.Async

/-- A connected socket and the bytes that were received but not used yet. -/
structure Socket where
  client : TCP.Socket.Client
  pending : IO.Ref (List UInt8)

namespace Socket

/-- The reason why there is no connection. -/
def reason : IO.Error → String
  | .noSuchThing _ _ "connection refused" => "Connection refused (os error 111)"
  | .noSuchThing _ _ "network is unreachable" => "Network is unreachable (os error 101)"
  | e => toString e

/-- Bytes that arrive within the given time; none when the client closes the connection. -/
def arrival (s : Socket) (milliseconds : Nat) : IO (Option (Option ByteArray)) :=
  Async.block do
    let timer ← Selector.sleep (.ofNat milliseconds)
    Selectable.one #[
      .case (s.client.recvSelector 4096) fun bytes => return some bytes,
      .case timer fun _ => return none]

/-- The next line before the deadline. -/
partial def lineBefore (s : Socket) (deadline : Nat) : IO Reply := do
  let pending ← s.pending.get
  match Client.firstLine? pending with
  | some (line, rest) =>
    s.pending.set rest
    return Client.lineReply line
  | none =>
    match ← s.arrival (deadline - (← IO.monoMsNow)) with
    | none => return .timeout
    | some none =>
      s.pending.set []
      return if pending.isEmpty then .lost "client closed the connection"
        else Client.lineReply pending
    | some (some bytes) =>
      s.pending.set (pending ++ bytes.toList)
      s.lineBefore deadline

/-- The socket as a connection of a session that waits for the given time. -/
def link (s : Socket) (milliseconds : Nat) : Link IO where
  send line := do
    try
      Async.block (s.client.send (line ++ "\n").toUTF8)
      return none
    catch e => return some (toString e)
  receive := do
    try s.lineBefore ((← IO.monoMsNow) + milliseconds)
    catch e => return .lost (toString e)

/-- The first numeric address of a host. -/
def resolve (host : String) : IO (Option Std.Net.IPAddr) := do
  match Std.Net.IPv4Addr.ofString host with
  | some ip => return some (.v4 ip)
  | none => return (← Async.block (DNS.getAddrInfo host "")).toList.head?

/-- Connects to an address. -/
def connect (address : Address) : IO (Except String Socket) := do
  try
    match ← resolve address.host with
    | none => return .error "failed to lookup address information"
    | some ip =>
      let client ← TCP.Socket.Client.mk
      let target := match ip with
        | .v4 ip => Std.Net.SocketAddress.v4 ⟨ip, address.port⟩
        | .v6 ip => Std.Net.SocketAddress.v6 ⟨ip, address.port⟩
      Async.block (client.connect target)
      return .ok ⟨client, ← IO.mkRef []⟩
  catch e => return .error (reason e)

end Socket

end Plotline
