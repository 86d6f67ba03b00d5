import Plotline.Lowering.Arguments
import Plotline.Lowering.Constant

/-!
# Lowering expressions

An expression becomes a value. There is no arithmetic in values: every operation becomes an
action that writes a fresh temporary variable, and the temporary stands for the result. Actions
come before the block that uses the value.
-/

namespace Plotline

open Script

/-- The scopes of the variables that are declared, last declaration first. -/
abbrev Bindings := List (String × Scope)

def Bindings.scope? (b : Bindings) (name : String) : Option Scope :=
  (b.find? fun d => d.1 = name).map Prod.snd

/-- What something was lowered to: the actions to run first, the result, and the number of the
next temporary. -/
structure Lowered (α : Type) where
  code : List Instruction
  result : α
  temps : Nat

/-- The temporary variable with the given number. -/
def temporary (n : Nat) : Value := .var ("__tmp" ++ toString n) .line

/-- The action that computes an operation. -/
def Script.BinaryOp.action : BinaryOp → String
  | .add => "+"
  | .sub => "-"
  | .mul => "x"
  | .div => "/"
  | .mod => "%"

/-- A reference to a variable: in the scope written in front of it, else in that of its
declaration. -/
def Script.VarRef.resolve (b : Bindings) (v : VarRef) : Except LoweringError Value :=
  match v.scope with
  | some scope => .ok (.var v.name.name scope)
  | none =>
    match b.scope? v.name.name with
    | some scope => .ok (.var v.name.name scope)
    | none => .error ⟨.unresolvedVariable v.name.name, v.name.span⟩

/-- The selector that a name stands for. -/
def Script.Ident.selector (i : Ident) : Except LoweringError Selector :=
  match Selector.ofName? i.name with
  | some s => .ok s
  | none => .error ⟨.unknownSelector i.name, i.span⟩

namespace Script.Expr

/-- The value of an expression, when the next temporary has the number `k`. -/
def lower (b : Bindings) : Expr → Nat → Except LoweringError (Lowered Value)
  | .constant c span, k => do return ⟨[], ← c.value span, k⟩
  | .variable v _, k => do return ⟨[], ← v.resolve b, k⟩
  | .gameValue name none _, k => .ok ⟨[], .gameValue ⟨name.name, .default⟩, k⟩
  | .gameValue name (some target) _, k => do
    return ⟨[], .gameValue ⟨name.name, ← target.selector⟩, k⟩
  | .binary op lhs rhs span, k => do
    let l ← lower b lhs k
    let r ← lower b rhs l.temps
    let result := temporary r.temps
    let i ← setVariable op.action [result, l.result, r.result] span
    return ⟨l.code ++ r.code ++ [i], result, r.temps + 1⟩

/-- The values of several expressions. -/
def lowerAll (b : Bindings) : List Expr → Nat → Except LoweringError (Lowered (List Value))
  | [], k => .ok ⟨[], [], k⟩
  | e :: es, k => do
    let v ← lower b e k
    let vs ← lowerAll b es v.temps
    return ⟨v.code ++ vs.code, v.result :: vs.result, vs.temps⟩

end Script.Expr

/-! ## Actions and conditions -/

namespace Script

/-- Whether a block acts on somebody. -/
def hasTarget (block : BlockKind) : Bool :=
  block = .playerAction || block = .entityAction || block = .ifPlayer || block = .ifEntity

/-- The selector of a block that has one. -/
def lowerTarget (block : BlockKind) : Option Ident → Except LoweringError (Option Selector)
  | none => .ok none
  | some i =>
    if hasTarget block then i.selector.map some else .error ⟨.misplaced (.target block), i.span⟩

/-- The block of an action of the family. -/
def Family.actionBlock : Family → BlockKind
  | .player => .playerAction
  | .entity => .entityAction
  | .game => .gameAction
  | .variable => .setVar
  | .control => .control

/-- The block of a condition of the family. -/
def Family.checkBlock? : Family → Option BlockKind
  | .player => some .ifPlayer
  | .entity => some .ifEntity
  | .game => some .ifGame
  | .variable => some .ifVar
  | .control => none

/-- The target and the arguments of a call in a block. -/
def ActionCall.lowerParts (b : Bindings) (c : ActionCall) (block : BlockKind) (k : Nat) :
    Except LoweringError (Lowered (Option Selector × List Value)) := do
  let target ← lowerTarget block c.target
  let args ← Expr.lowerAll b c.args k
  let complete ← completeArgs block c.name.name args.result c.tags c.span
  return ⟨args.code, (target, complete), args.temps⟩

def ActionCall.lower (b : Bindings) (c : ActionCall) (k : Nat) :
    Except LoweringError (Lowered Action) := do
  let block := c.family.actionBlock
  let parts ← c.lowerParts b block k
  let action : Action :=
    { block, name := c.name.name, args := parts.result.2, target := parts.result.1 }
  return ⟨parts.code, action, parts.temps⟩

/-- The check that a comparison becomes. -/
def CompareOp.check : CompareOp → String
  | .eq => "="
  | .notEq => "!="
  | .greater => ">"
  | .greaterEq => ">="
  | .less => "<"
  | .lessEq => "<="

/-- The check of a condition. Negation turns it around. -/
def Condition.lower (b : Bindings) : Condition → Nat → Except LoweringError (Lowered Check)
  | .compare op lhs rhs span, k => do
    let l ← lhs.lower b k
    let r ← rhs.lower b l.temps
    let args ← completeArgs .ifVar op.check [l.result, r.result] [] span
    return ⟨l.code ++ r.code, { block := .ifVar, name := op.check, args }, r.temps⟩
  | .check call, k =>
    match call.family.checkBlock? with
    | none => .error ⟨.misplaced .controlCheck, call.span⟩
    | some block => do
      let parts ← call.lowerParts b block k
      let check : Check :=
        { block, name := call.name.name, args := parts.result.2, target := parts.result.1 }
      return ⟨parts.code, check, parts.temps⟩
  | .not c, k => do
    let r ← lower b c k
    return ⟨r.code, { r.result with inverted := !r.result.inverted }, r.temps⟩

end Script

end Plotline
