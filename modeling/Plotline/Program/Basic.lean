import Plotline.Value.Basic

/-!
# Programs

A program is a list of units; a unit is a header and the instructions that run below it. After
fitting, the same shape is a template: one line of blocks on a plot.
-/

namespace Plotline

/-- The category of a block. -/
inductive BlockKind
  | playerEvent
  | entityEvent
  | function
  | process
  | playerAction
  | entityAction
  | gameAction
  | setVar
  | control
  | ifPlayer
  | ifEntity
  | ifGame
  | ifVar
  | otherwise
  | loop
  | callFunction
  | startProcess
deriving DecidableEq, Repr

/-- The name of the category in listings and documents. -/
def BlockKind.id : BlockKind → String
  | .playerEvent => "event"
  | .entityEvent => "entity_event"
  | .function => "func"
  | .process => "process"
  | .playerAction => "player_action"
  | .entityAction => "entity_action"
  | .gameAction => "game_action"
  | .setVar => "set_var"
  | .control => "control"
  | .ifPlayer => "if_player"
  | .ifEntity => "if_entity"
  | .ifGame => "if_game"
  | .ifVar => "if_var"
  | .otherwise => "else"
  | .loop => "repeat"
  | .callFunction => "call_func"
  | .startProcess => "start_process"

/-- The number of slots of a block. -/
def chestSlots : Nat := 27

structure Action where
  block : BlockKind
  name : String
  args : List Value
  target : Option Selector := none
deriving DecidableEq, Repr

/-- The head of a branch. -/
structure Check where
  block : BlockKind
  name : String
  args : List Value
  target : Option Selector := none
  inverted : Bool := false
deriving DecidableEq, Repr

/-- The head of a loop. Loops on a condition name it in `subAction`. -/
structure Loop where
  name : String
  args : List Value
  subAction : Option String := none
  inverted : Bool := false
deriving DecidableEq, Repr

/-- The head of a bracket. -/
inductive Head
  | branch (c : Check)
  | loop (l : Loop)
deriving DecidableEq, Repr

namespace Head

def args : Head → List Value
  | .branch c => c.args
  | .loop l => l.args

def mapArgs (f : Value → Value) : Head → Head
  | .branch c => .branch { c with args := c.args.map f }
  | .loop l => .loop { l with args := l.args.map f }

/-- The short name of a bracket in messages. -/
def describe : Head → String
  | .branch c => c.block.id ++ " " ++ c.name
  | .loop l => "repeat " ++ l.name

def isLoop : Head → Bool
  | .branch _ => false
  | .loop _ => true

end Head

inductive CallKind
  | function
  | process
deriving DecidableEq, Repr

/-- A call of a function, or the start of a process. -/
structure Call where
  kind : CallKind
  name : String
  args : List Value
deriving DecidableEq, Repr

/-- The call of a function without arguments. -/
def Call.link (name : String) : Call := ⟨.function, name, []⟩

/-- An instruction. A bracket's `setup` computes the operands of its head and runs right before
it. -/
inductive Instruction
  | action (a : Action)
  | call (c : Call)
  | bracket (head : Head) (setup body : List Instruction) (otherwise : Option (List Instruction))

namespace Instruction

instance : Inhabited Instruction := ⟨.call (.link "")⟩

/-! ## Decidable equality -/

mutual

def decEq : (a b : Instruction) → Decidable (a = b)
  | .action a, .action b => decidable_of_iff (a = b) (by simp)
  | .call a, .call b => decidable_of_iff (a = b) (by simp)
  | .bracket h s b e, .bracket h' s' b' e' =>
    match decEqAll s s', decEqAll b b', decEqElse e e' with
    | isTrue hs, isTrue hb, isTrue he =>
      if hh : h = h' then isTrue (by rw [hh, hs, hb, he]) else isFalse (by simp [hh])
    | isFalse hs, _, _ => isFalse (by simp [hs])
    | _, isFalse hb, _ => isFalse (by simp [hb])
    | _, _, isFalse he => isFalse (by simp [he])
  | .action _, .call _ | .action _, .bracket .. | .call _, .action _ | .call _, .bracket ..
  | .bracket .., .action _ | .bracket .., .call _ => isFalse (by simp)

def decEqAll : (a b : List Instruction) → Decidable (a = b)
  | [], [] => isTrue rfl
  | [], _ :: _ | _ :: _, [] => isFalse (by simp)
  | a :: as, b :: bs =>
    match decEq a b, decEqAll as bs with
    | isTrue h, isTrue h' => isTrue (by rw [h, h'])
    | isFalse h, _ => isFalse (by simp [h])
    | _, isFalse h => isFalse (by simp [h])

def decEqElse : (a b : Option (List Instruction)) → Decidable (a = b)
  | none, none => isTrue rfl
  | none, some _ | some _, none => isFalse (by simp)
  | some a, some b =>
    match decEqAll a b with
    | isTrue h => isTrue (by rw [h])
    | isFalse h => isFalse (by simp [h])

end

instance : DecidableEq Instruction := decEq

/-! ## Values of an instruction -/

mutual

/-- Every value in the instruction and in all that is nested in it: those of the head first, then
the setup, the body and the else body. -/
def values : Instruction → List Value
  | .action a => a.args
  | .call c => c.args
  | .bracket head setup body none => head.args ++ valuesAll setup ++ valuesAll body
  | .bracket head setup body (some rest) =>
    head.args ++ valuesAll setup ++ valuesAll body ++ valuesAll rest

def valuesAll : List Instruction → List Value
  | [] => []
  | i :: is => values i ++ valuesAll is

end

mutual

/-- Changes every value of the instruction. -/
def mapValues (f : Value → Value) : Instruction → Instruction
  | .action a => .action { a with args := a.args.map f }
  | .call c => .call { c with args := c.args.map f }
  | .bracket head setup body none =>
    .bracket (head.mapArgs f) (mapValuesAll f setup) (mapValuesAll f body) none
  | .bracket head setup body (some rest) =>
    .bracket (head.mapArgs f) (mapValuesAll f setup) (mapValuesAll f body)
      (some (mapValuesAll f rest))

def mapValuesAll (f : Value → Value) : List Instruction → List Instruction
  | [] => []
  | i :: is => mapValues f i :: mapValuesAll f is

end

end Instruction

/-! ## Headers, templates, programs -/

inductive EventKind
  | player
  | entity
deriving DecidableEq, Repr

/-- What starts a unit. A hidden function continues a unit that did not fit one template. -/
inductive Header
  | event (kind : EventKind) (name : String)
  | function (name : String) (params : List String) (hidden : Bool)
  | process (name : String)
deriving DecidableEq, Repr

namespace Header

def continuation (name : String) : Header := .function name [] true

def isContinuation : Header → Bool
  | .function _ _ hidden => hidden
  | _ => false

/-- The name of the unit, from which the names of its continuations are made. -/
def unitName : Header → String
  | .event .player name => "event." ++ name
  | .event .entity name => "entity_event." ++ name
  | .function name _ _ => name
  | .process name => name

end Header

structure Template where
  header : Header
  body : List Instruction
deriving DecidableEq

namespace Template

def name (t : Template) : String := t.header.unitName

def values (t : Template) : List Value := Instruction.valuesAll t.body

def mapValues (f : Value → Value) (t : Template) : Template :=
  { t with body := Instruction.mapValuesAll f t.body }

/-- The continuation that the template hands over to: the one its last instruction calls. -/
def linkedTo? (continuations : List String) (t : Template) : Option String :=
  match t.body.getLast? with
  | some (.call c) => if c.name ∈ continuations then some c.name else none
  | _ => none

end Template

structure Program where
  units : List Template
deriving DecidableEq

end Plotline
