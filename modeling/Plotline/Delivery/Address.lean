/-!
# Addresses of clients

An address is a host and a port with a colon between them.
-/

namespace Plotline

structure Address where
  host : String
  port : UInt16
deriving DecidableEq, Repr

namespace Address

/-- A number without sign or with a plus sign that fits into 16 bits. -/
def port? (cs : List Char) : Option UInt16 :=
  let digits := match cs with
    | '+' :: rest => rest
    | rest => rest
  if !digits.isEmpty ∧ digits.all Char.isDigit then
    let n : Nat := digits.foldl (fun n c => 10 * n + (c.toNat - 48)) 0
    if n < 65536 then some n.toUInt16 else none
  else none

/-- The address that a text spells, or a reason why it spells none. -/
def ofText (text : String) : Except String Address :=
  let reversed := text.toList.reverse
  match reversed.dropWhile (· ≠ ':') with
  | [] => .error "invalid socket address"
  | _ :: host =>
    match port? (reversed.takeWhile (· ≠ ':')).reverse with
    | some port => .ok ⟨String.ofList host.reverse, port⟩
    | none => .error "invalid port value"

end Address

end Plotline
