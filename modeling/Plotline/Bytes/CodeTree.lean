/-!
# Prefix codes

A prefix code as a tree: each bit of a codeword goes down to a subtree, and a leaf holds a symbol.
The code is given by the length of each symbol's codeword. Shorter codewords stand further left,
and of the same length those of smaller symbols.
-/

namespace Plotline

inductive CodeTree
  | unused
  | leaf (symbol : Nat)
  | node (zero one : CodeTree)

namespace CodeTree

/-- The largest length of a codeword. -/
def maxLength : Nat := 15

/-- The tree `depth` levels below the root with at most `levels` levels below it, filled from the
left with the symbols in the list, which come with the lengths of their codewords; and the symbols
that are left over. -/
def grow (depth : Nat) : Nat → List (Nat × Nat) → CodeTree × List (Nat × Nat)
  | _, [] => (.unused, [])
  | 0, (_, symbol) :: rest => (.leaf symbol, rest)
  | levels + 1, (length, symbol) :: rest =>
    if length ≤ depth then (.leaf symbol, rest)
    else
      let (zero, rest) := grow (depth + 1) levels ((length, symbol) :: rest)
      let (one, rest) := grow (depth + 1) levels rest
      (.node zero one, rest)

/-- The symbols that have a codeword, by length. -/
def used (lengths : List Nat) : List (Nat × Nat) :=
  (lengths.zipIdx.filter fun p => p.1 ≠ 0).mergeSort fun a b => a.1 ≤ b.1

/-- The sum of the shares of all codewords, in units of the longest ones. -/
def shares (lengths : List (Nat × Nat)) : Nat :=
  lengths.foldr (fun p n => Nat.pow 2 (maxLength - p.1) + n) 0

/-- Whether a code has no codeword, or only one, of a single bit. -/
def isSparse : List (Nat × Nat) → Bool
  | [] => true
  | [(length, _)] => length = 1
  | _ => false

/-- The tree with codewords of the given lengths, where zero stands for no codeword. Every word
has to start with a codeword, unless the code is sparse and `sparse` is allowed. -/
def ofLengths? (sparse : Bool) (lengths : List Nat) : Option CodeTree :=
  let symbols := used lengths
  if shares symbols = Nat.pow 2 maxLength ∨ (sparse ∧ isSparse symbols) then
    some (grow 0 maxLength symbols).1
  else none

/-- The symbol whose codeword comes next, and the bits behind it. -/
def symbol? : CodeTree → List Bool → Option (Nat × List Bool)
  | .unused, _ => none
  | .leaf symbol, bits => some (symbol, bits)
  | .node _ _, [] => none
  | .node zero one, b :: bits => if b then one.symbol? bits else zero.symbol? bits

end CodeTree

end Plotline
