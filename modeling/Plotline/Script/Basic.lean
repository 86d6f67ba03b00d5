import Plotline.Program.Basic
import Plotline.Span

/-!
# Scripts

A script is a list of items: what is bound to events, functions and processes. The parser hands
it over as a tree in which everything that can be blamed for a fault knows its span.
-/

namespace Plotline

open Numeral

namespace Script

/-- A name and where it stands. -/
structure Ident where
  name : String
  span : Span := .unknown
deriving DecidableEq, Repr

/-- A variable, and the scope written in front of it. -/
structure VarRef where
  name : Ident
  scope : Option Scope := none
deriving DecidableEq, Repr

/-! ## Expressions -/

inductive BinaryOp
  | add
  | sub
  | mul
  | div
  | mod
deriving DecidableEq, Repr

/-- The value of a particle's setting. -/
inductive SettingValue
  | number (x : Double)
  | text (s : String)
deriving DecidableEq, Repr

/-- A setting of a particle. -/
structure Setting where
  name : Ident
  value : SettingValue
deriving DecidableEq, Repr

/-- What is written out in the script. -/
inductive Constant
  | text (s : String)
  | number (x : Double)
  | location (x y z pitch yaw : Double)
  | vector (x y z : Double)
  | sound (name : String) (pitch volume : Double)
  | potion (name : String) (duration level : Double)
  | particle (name : String) (settings : List Setting)
  | item (payload : String)
deriving DecidableEq, Repr

inductive Expr
  | constant (c : Constant) (span : Span)
  | variable (v : VarRef) (span : Span)
  | gameValue (name : Ident) (target : Option Ident) (span : Span)
  | binary (op : BinaryOp) (lhs rhs : Expr) (span : Span)
deriving DecidableEq, Repr

def Expr.span : Expr → Span
  | .constant _ span | .variable _ span | .gameValue _ _ span | .binary _ _ _ span => span

/-! ## Actions and conditions -/

/-- The family of an action or of a condition. -/
inductive Family
  | player
  | entity
  | game
  | variable
  | control
deriving DecidableEq, Repr

/-- The option chosen for a tag. -/
structure TagChoice where
  name : String
  option : String
  span : Span := .unknown
deriving DecidableEq, Repr

/-- An action, or a condition that asks for something. -/
structure ActionCall where
  family : Family
  name : Ident
  args : List Expr := []
  tags : List TagChoice := []
  target : Option Ident := none
  span : Span := .unknown
deriving DecidableEq, Repr

inductive CompareOp
  | eq
  | notEq
  | greater
  | greaterEq
  | less
  | lessEq
deriving DecidableEq, Repr

inductive Condition
  | compare (op : CompareOp) (lhs rhs : Expr) (span : Span)
  | check (call : ActionCall)
  | not (c : Condition)
deriving DecidableEq, Repr

/-- A negated condition stands where the condition in it does. -/
def Condition.span : Condition → Span
  | .compare _ _ _ span => span
  | .check call => call.span
  | .not c => c.span

/-! ## Statements -/

inductive AssignOp
  | set
  | add
  | sub
  | mul
  | div
  | mod
deriving DecidableEq, Repr

/-- What a loop runs over. -/
inductive LoopKind
  | times (count : Expr)
  | forever
  | whilst (c : Condition)
  | forEach (var : VarRef) (list : Expr)
  | range (var : VarRef) (first last : Expr)
deriving DecidableEq, Repr

mutual

inductive Statement
  | action (call : ActionCall)
  | declare (var : VarRef) (value : Option Expr) (span : Span)
  | assign (target : VarRef) (op : AssignOp) (value : Expr) (span : Span)
  | branch (b : Branch)
  | loop (kind : LoopKind) (body : List Statement) (bodySpan span : Span)
  | call (name : Ident) (args : List Expr) (span : Span)
  | start (name : Ident) (span : Span)
  | wait (duration : Option Expr) (tags : List TagChoice) (span : Span)
  | leave (span : Span)
  | stop (span : Span)
  | skip (span : Span)

/-- A condition with what runs when it holds and when it does not. -/
inductive Branch
  | mk (condition : Condition) (body : List Statement) (bodySpan : Span) (otherwise : Otherwise)
    (span : Span)

/-- What runs when a condition does not hold. -/
inductive Otherwise
  | nothing
  | block (body : List Statement) (bodySpan : Span)
  | branch (b : Branch)

end

instance : Inhabited Statement := ⟨.leave .unknown⟩

def Branch.span : Branch → Span
  | .mk _ _ _ _ span => span

def Statement.span : Statement → Span
  | .action a => a.span
  | .branch b => b.span
  | .declare _ _ span | .assign _ _ _ span | .loop _ _ _ span | .call _ _ span | .start _ span
  | .wait _ _ span | .leave span | .stop span | .skip span => span

/-! ## Items -/

inductive Item
  | event (kind : EventKind) (name : Ident) (body : List Statement) (bodySpan span : Span)
  | function (name : Ident) (params : List Ident) (body : List Statement) (bodySpan span : Span)
  | process (name : Ident) (body : List Statement) (bodySpan span : Span)

namespace Item

def span : Item → Span
  | .event _ _ _ _ span | .function _ _ _ _ span | .process _ _ _ span => span

def body : Item → List Statement
  | .event _ _ body _ _ | .function _ _ body _ _ | .process _ body _ _ => body

end Item

/-! ## Walking over spans -/

mutual

/-- The spans of a statement in order: its own, then that of the condition of a branch and those
of all statements in its bodies. -/
def Statement.spans : Statement → List Span
  | .branch b => b.span :: b.innerSpans
  | .loop _ body _ span => span :: Statement.spansAll body
  | .action a => [a.span]
  | .declare _ _ span | .assign _ _ _ span | .call _ _ span | .start _ span | .wait _ _ span
  | .leave span | .stop span | .skip span => [span]

/-- The spans of a branch without its own. -/
def Branch.innerSpans : Branch → List Span
  | .mk condition body _ rest _ =>
    condition.span :: Statement.spansAll body ++ rest.spans

def Otherwise.spans : Otherwise → List Span
  | .nothing => []
  | .block body _ => Statement.spansAll body
  | .branch b => b.innerSpans

def Statement.spansAll : List Statement → List Span
  | [] => []
  | s :: rest => s.spans ++ Statement.spansAll rest

end

end Script

structure Script where
  items : List Script.Item
  span : Span := .unknown

/-- The spans of a script's items and statements in order. -/
def Script.spans (s : Script) : List Span :=
  s.items.flatMap fun i => i.span :: Script.Statement.spansAll i.body

end Plotline
