import Plotline.Program.Basic

/-!
# Weights

How many slots of a plot line instructions take. Every block takes one: headers, actions, calls,
heads of brackets, the two markers of a body and the block between two bodies.
-/

namespace Plotline

namespace Instruction

/-- The slots of a bracket without its bodies and its setup: the head and two markers, and as
many again for the else body. -/
def frameWeight (otherwise : Option (List Instruction)) : Nat :=
  if otherwise.isSome then 6 else 3

mutual

/-- The slots of an instruction with all that is nested in it. -/
def weight : Instruction → Nat
  | .action _ => 1
  | .call _ => 1
  | .bracket _ setup body none => weightAll setup + 3 + weightAll body
  | .bracket _ setup body (some rest) => weightAll setup + 6 + weightAll body + weightAll rest

def weightAll : List Instruction → Nat
  | [] => 0
  | i :: is => weight i + weightAll is

end

/-- The slots of a bracket without its bodies. -/
def shellWeight (setup : List Instruction) (otherwise : Option (List Instruction)) : Nat :=
  weightAll setup + frameWeight otherwise

/-- The slots of an else body. -/
def elseWeight : Option (List Instruction) → Nat
  | none => 0
  | some rest => weightAll rest

theorem weight_bracket (head : Head) (setup body : List Instruction)
    (otherwise : Option (List Instruction)) :
    weight (.bracket head setup body otherwise) =
      shellWeight setup otherwise + weightAll body + elseWeight otherwise := by
  cases otherwise <;> simp [weight, shellWeight, frameWeight, elseWeight]

theorem weight_pos (i : Instruction) : 0 < i.weight := by
  cases i with
  | action _ => simp [weight]
  | call _ => simp [weight]
  | bracket head setup body otherwise =>
    rw [weight_bracket, shellWeight, frameWeight]
    split <;> omega

end Instruction

/-- The slots of a template. -/
def Template.weight (t : Template) : Nat := 1 + Instruction.weightAll t.body

end Plotline
