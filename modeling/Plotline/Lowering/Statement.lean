import Plotline.Lowering.Expr

/-!
# Lowering statements

Statements become instructions. Every branch and every loop becomes one bracket, whose setup
computes the operands of its head. Declarations in a body are forgotten after it; numbers of
temporaries go on.
-/

namespace Plotline

open Script

/-- The functions with the number of their parameters, and the processes. -/
structure Definitions where
  functions : List (String × Nat) := []
  processes : List String := []

def Definitions.arity? (d : Definitions) (name : String) : Option Nat :=
  (d.functions.find? fun f => f.1 = name).map Prod.snd

/-- What a statement may depend on besides declarations. -/
structure Surroundings where
  definitions : Definitions
  inEvent : Bool
  inLoop : Bool := false

/-- The declarations so far, and the number of the next temporary. -/
structure Cursor where
  bindings : Bindings
  temps : Nat

/-- The scope of a variable that is declared: the one written in front of it, else the line. -/
def Script.VarRef.declared (v : VarRef) : Scope := v.scope.getD .line

/-- A control action. -/
def controlAction (name : String) (args : List Value) (tags : List TagChoice) (span : Span) :
    Except LoweringError Instruction := plainAction .control name args tags span

/-- The action that assigns a value to a variable. -/
def assignment (op : AssignOp) (target value : Value) (span : Span) :
    Except LoweringError Instruction :=
  match op with
  | .set => setVariable "=" [target, value] span
  | .add => setVariable "+=" [target, value] span
  | .sub => setVariable "-=" [target, value] span
  | .mul => setVariable "x" [target, target, value] span
  | .div => setVariable "/" [target, target, value] span
  | .mod => setVariable "%" [target, target, value] span

/-- The head of a loop: counted ones have a name, arguments and the variable that they declare
for their body; the others have a condition. -/
inductive LoopHead
  | counted (name : String) (args : List Value) (declares : Bindings)
  | whilst (check : Check)

/-- The head of a loop. -/
def Script.LoopKind.lower (b : Bindings) (kind : LoopKind) (k : Nat) :
    Except LoweringError (Lowered LoopHead) :=
  match kind with
  | .times count => do
    let n ← count.lower b k
    return ⟨n.code, .counted "Multiple" [n.result] [], n.temps⟩
  | .forever => .ok ⟨[], .counted "Forever" [] [], k⟩
  | .forEach var list => do
    let l ← list.lower b k
    let name := var.name.name
    let scope := var.declared
    return ⟨l.code, .counted "ForEach" [.var name scope, l.result] [(name, scope)], l.temps⟩
  | .range var first last => do
    let x ← first.lower b k
    let y ← last.lower b x.temps
    let name := var.name.name
    let scope := var.declared
    return ⟨x.code ++ y.code,
      .counted "Range" [.var name scope, x.result, y.result] [(name, scope)], y.temps⟩
  | .whilst condition => do
    let r ← condition.lower b k
    return ⟨r.code, .whilst r.result, r.temps⟩

/-- A loop on a condition with the instructions of its body. A condition without setup and target
is checked by the loop itself; for any other one the loop runs forever, and the first thing in
its body is to stop when the condition fails. -/
def conditionLoop (setup : List Instruction) (check : Check) (body : List Instruction)
    (span : Span) : Except LoweringError Instruction :=
  if setup.isEmpty ∧ check.target.isNone then
    let head : Loop :=
      { name := "While", args := check.args, subAction := check.name, inverted := check.inverted }
    .ok (.bracket (.loop head) [] body none)
  else do
    let stop ← controlAction "StopRepeat" [] [] span
    let guard := .bracket (.branch { check with inverted := !check.inverted }) setup [stop] none
    let args ← completeArgs .loop "Forever" [] [] span
    return .bracket (.loop { name := "Forever", args }) [] (guard :: body) none

namespace Script

mutual

/-- The instructions of a statement, and the declarations and temporaries after it. -/
def Statement.lower : Statement → Surroundings → Cursor →
    Except LoweringError (List Instruction × Cursor)
  | .action a, _, c => do
    let r ← a.lower c.bindings c.temps
    return (r.code ++ [.action r.result], { c with temps := r.temps })
  | .declare v none _, _, c =>
    .ok ([], { c with bindings := (v.name.name, v.declared) :: c.bindings })
  | .declare v (some e) span, _, c => do
    let r ← e.lower c.bindings c.temps
    let i ← setVariable "=" [.var v.name.name v.declared, r.result] span
    return (r.code ++ [i], ⟨(v.name.name, v.declared) :: c.bindings, r.temps⟩)
  | .assign target op e span, _, c => do
    let target ← target.resolve c.bindings
    let r ← e.lower c.bindings c.temps
    let i ← assignment op target r.result span
    return (r.code ++ [i], { c with temps := r.temps })
  | .branch b, s, c => do
    let (i, temps) ← b.lower s c
    return ([i], { c with temps })
  | .loop kind body _ span, s, c => do
    let r ← kind.lower c.bindings c.temps
    match r.result with
    | .counted name args declares =>
      let args ← completeArgs .loop name args [] span
      let (body, temps) ← Statement.lowerAll body { s with inLoop := true }
        ⟨declares ++ c.bindings, r.temps⟩
      return ([.bracket (.loop { name, args }) r.code body none], { c with temps })
    | .whilst check =>
      let (body, temps) ← Statement.lowerAll body { s with inLoop := true } ⟨c.bindings, r.temps⟩
      return ([← conditionLoop r.code check body span], { c with temps })
  | .call name args span, s, c =>
    match s.definitions.arity? name.name with
    | none => .error ⟨.unknownFunction name.name, name.span⟩
    | some arity =>
      if args.length ≠ arity then
        .error ⟨.argumentCount name.name (.exactly arity) args.length, span⟩
      else do
        let r ← Expr.lowerAll c.bindings args c.temps
        return (r.code ++ [.call ⟨.function, name.name, r.result⟩], { c with temps := r.temps })
  | .start name _, s, c =>
    if name.name ∈ s.definitions.processes then .ok ([.call ⟨.process, name.name, []⟩], c)
    else .error ⟨.unknownFunction name.name, name.span⟩
  | .wait none tags span, _, c => do return ([← controlAction "Wait" [] tags span], c)
  | .wait (some e) tags span, _, c => do
    let r ← e.lower c.bindings c.temps
    let i ← controlAction "Wait" [r.result] tags span
    return (r.code ++ [i], { c with temps := r.temps })
  | .leave span, s, c => do
    return ([← controlAction (if s.inEvent then "End" else "Return") [] [] span], c)
  | .stop span, s, c =>
    if s.inLoop then do return ([← controlAction "StopRepeat" [] [] span], c)
    else .error ⟨.misplaced .stop, span⟩
  | .skip span, s, c =>
    if s.inLoop then do return ([← controlAction "Skip" [] [] span], c)
    else .error ⟨.misplaced .skip, span⟩

/-- The bracket of a branch, and the number of the next temporary after it. -/
def Branch.lower : Branch → Surroundings → Cursor → Except LoweringError (Instruction × Nat)
  | .mk condition body _ rest _, s, c => do
    let r ← condition.lower c.bindings c.temps
    let (body, temps) ← Statement.lowerAll body s ⟨c.bindings, r.temps⟩
    let (rest, temps) ← rest.lower s ⟨c.bindings, temps⟩
    return (.bracket (.branch r.result) r.code body rest, temps)

def Otherwise.lower : Otherwise → Surroundings → Cursor →
    Except LoweringError (Option (List Instruction) × Nat)
  | .nothing, _, c => .ok (none, c.temps)
  | .block body _, s, c => do
    let (body, temps) ← Statement.lowerAll body s c
    return (some body, temps)
  | .branch b, s, c => do
    let (i, temps) ← b.lower s c
    return (some [i], temps)

/-- The instructions of a body, and the number of the next temporary after it. -/
def Statement.lowerAll : List Statement → Surroundings → Cursor →
    Except LoweringError (List Instruction × Nat)
  | [], _, c => .ok ([], c.temps)
  | x :: xs, s, c => do
    let (code, c) ← x.lower s c
    let (rest, temps) ← Statement.lowerAll xs s c
    return (code ++ rest, temps)

end

end Script

end Plotline
