import Plotline.Fitting.Error
import Plotline.Program.Weight

/-!
# Fitting units into templates

A template holds at most as many slots as the plot allows. The instructions of a unit are taken
in their order. While more of them follow, a template keeps one slot free, so that it can be
closed with a call of a hidden function that continues the unit.

A bracket that does not fit moves to a fresh template. When it does not fit there either, the
first part of its body stays and the rest goes into a continuation, which is called at the end of
the body. An exit of a loop or function never moves into a continuation without the loop or
function that it leaves.

`fit` gives the templates in the order in which they are begun: a template comes right before
those that its brackets were cut into, and these before the one that continues it.
-/

namespace Plotline

open Instruction

/-! ## Exits -/

/-- The exit that an action is. -/
def Action.exit? (a : Action) : Option Exit :=
  if a.block = .control then
    match a.name with
    | "Return" => some .leave
    | "StopRepeat" => some .stop
    | "Skip" => some .skip
    | _ => none
  else none

namespace Instruction

mutual

/-- The first exit in an instruction that leaves a loop or function around it. Setups have no
exits. -/
def escapingExit? (inLoop : Bool) : Instruction → Option Exit
  | .action a =>
    match a.exit? with
    | some .leave => some .leave
    | some e => if inLoop then none else some e
    | none => none
  | .call _ => none
  | .bracket head _ body none => escapingExitAll? (inLoop || head.isLoop) body
  | .bracket head _ body (some rest) =>
    match escapingExitAll? (inLoop || head.isLoop) body with
    | some e => some e
    | none => escapingExitAll? (inLoop || head.isLoop) rest

def escapingExitAll? (inLoop : Bool) : List Instruction → Option Exit
  | [] => none
  | i :: is =>
    match escapingExit? inLoop i with
    | some e => some e
    | none => escapingExitAll? inLoop is

end

/-- The short name of an instruction in messages. -/
def describe : Instruction → String
  | .action a => a.block.id ++ " " ++ a.name
  | .call c => "call " ++ c.name
  | .bracket head _ _ _ => head.describe

end Instruction

/-! ## Cutting a body -/

/-- The longest first part of a body that fits the budget together with a call, and the rest. -/
def keep (budget : Nat) : List Instruction → List Instruction × List Instruction
  | [] => ([], [])
  | i :: is =>
    if i.weight + 1 ≤ budget then
      let r := keep (budget - i.weight) is
      (i :: r.1, r.2)
    else ([], i :: is)

theorem keep_append (budget : Nat) (is : List Instruction) :
    (keep budget is).1 ++ (keep budget is).2 = is := by
  induction is generalizing budget with
  | nil => rfl
  | cons i is ih =>
    rw [keep]
    split
    · simp [ih]
    · rfl

theorem weightAll_keep (budget : Nat) (is : List Instruction) :
    weightAll (keep budget is).2 ≤ weightAll is := by
  induction is generalizing budget with
  | nil => exact Nat.le_refl _
  | cons i is ih =>
    rw [keep]
    split
    · exact Nat.le_trans (ih _) (by simp [weightAll])
    · exact Nat.le_refl _

/-! ## Packing -/

/-- What fitting a unit depends on. -/
structure Plot where
  capacity : Nat
  unit : String

/-- The name of a continuation of the unit. -/
def Plot.continuation (p : Plot) (n : Nat) : String := p.unit ++ "~" ++ toString n

/-- The call that hands over to a continuation. -/
def Plot.link (p : Plot) (n : Nat) : Instruction := .call (.link (p.continuation n))

/-- The slot kept free for a call while instructions follow. -/
def reserve (rest : List Instruction) : Nat := if rest.isEmpty then 0 else 1

/-- The slots that cut bodies need for their calls. -/
def linkSlots (rest : Option (List Instruction)) : Nat := if rest.isSome then 2 else 1

/-- An instruction cut to fit, the templates it was cut into, and the number of the last
continuation. -/
structure Cut (α : Type) where
  kept : α
  templates : List Template
  last : Nat

mutual

/-- The templates for the instructions `nodes`. The first one starts with `header`, already holds
`placed`, and is followed by the templates `inner` that its brackets were cut into; `n` is the
number of the last continuation. -/
def pack (p : Plot) (header : Header) (placed : List Instruction) (inner : List Template) (n : Nat)
    (nodes : List Instruction) : Except FittingError (List Template × Nat) :=
  match nodes with
  | [] => .ok (⟨header, placed⟩ :: inner, n)
  | node :: rest =>
    if 1 + weightAll placed + node.weight + reserve rest ≤ p.capacity then
      pack p header (placed ++ [node]) inner n rest
    else if placed ≠ [] then do
      let (templates, last) ←
        pack p (.continuation (p.continuation (n + 1))) [] [] (n + 1) (node :: rest)
      return (⟨header, placed ++ [p.link (n + 1)]⟩ :: inner ++ templates, last)
    else
      match node with
      | .bracket head setup body other => do
        let cut ← splitBracket p head setup body other (p.capacity - (1 + reserve rest)) n
        pack p header [cut.kept] cut.templates cut.last rest
      | node => .error (.unsplittable p.unit node.describe p.capacity)
termination_by 4 * weightAll nodes + if placed = [] then 0 else 1
decreasing_by
  · have := weight_pos node
    simp only [weightAll]
    split <;> simp <;> omega
  · simp [*]
  · simp only [weightAll, weight_bracket, shellWeight, frameWeight]
    split <;> split <;> omega
  · have := weight_pos (bracket head setup body other)
    simp only [weightAll]
    split <;> simp <;> omega

/-- A bracket cut to at most `available` slots. -/
def splitBracket (p : Plot) (head : Head) (setup body : List Instruction)
    (other : Option (List Instruction)) (available n : Nat) :
    Except FittingError (Cut Instruction) :=
  let shell := shellWeight setup other
  if available < shell + linkSlots other then
    .error (.unsplittable p.unit head.describe p.capacity)
  else
    match other with
    | none => do
      let b ← splitBody p head body (available - shell) n
      return ⟨.bracket head setup b.kept none, b.templates, b.last⟩
    | some other => do
      let b ← splitBody p head body (available - shell - 1) n
      let o ← splitBody p head other (available - shell - weightAll b.kept) b.last
      return ⟨.bracket head setup b.kept (some o.kept), b.templates ++ o.templates, o.last⟩
termination_by 4 * (weightAll body + elseWeight other) + 3
decreasing_by
  all_goals simp only [elseWeight]; omega

/-- A body cut to at most `budget` slots. -/
def splitBody (p : Plot) (head : Head) (body : List Instruction) (budget n : Nat) :
    Except FittingError (Cut (List Instruction)) :=
  if weightAll body ≤ budget then .ok ⟨body, [], n⟩
  else
    match escapingExitAll? false (keep budget body).2 with
    | some exit => .error (.splitExit p.unit head.describe exit)
    | none => do
      let (templates, last) ←
        pack p (.continuation (p.continuation (n + 1))) [] [] (n + 1) (keep budget body).2
      return ⟨(keep budget body).1 ++ [p.link (n + 1)], templates, last⟩
termination_by 4 * weightAll body + 2
decreasing_by
  have := weightAll_keep budget body
  simp
  omega

end

/-- The templates of a unit. -/
def fit (capacity : Nat) (unit : Template) : Except FittingError (List Template) :=
  (pack ⟨capacity, unit.name⟩ unit.header [] [] 0 unit.body).map Prod.fst

end Plotline
