import Plotline.Proofs.Lowering.Definitions
import Plotline.Proofs.Lowering.Literals

/-!
# Well-formed scripts

What a script has to satisfy to have a meaning, said without lowering it. A `Place` is a statement
anywhere in an item, together with the names that are declared before it in the frames around it
and with whether it stands in a loop. `Place.Sound` has one clause for each thing that can be wrong
with a statement, its conditions and its expressions; bodies are places of their own.
`Script.WellFormed` asks this of all places of a script, and that its events are known and all its
items have different keys.

Whether a block may be used is read off the catalog (`Use.Fits`). There the arguments only count by
their kinds, and the kind of an expression is known from its form (`Expr.kind`).
-/

namespace Plotline

open Script

/-! ## Blocks and the catalog -/

/-- A value of the kind may stand for the parameter: variables for every one, game values for every
one but a variable that is written to, all others where they or anything are meant. -/
def ArgKind.Admits (k : ArgKind) (kind : ValueKind) : Prop :=
  kind = .variable ∨ kind = .gameValue ∧ k ≠ .variable ∨ k = .any ∧ kind ≠ .tag ∨
    k.exactKind? = some kind

/-- Arguments of the given kinds and the chosen tags are right for the signature. -/
structure Signature.Admits (s : Signature) (kinds : List ValueKind) (choices : List TagChoice) :
    Prop where
  enough : s.minArgs ≤ kinds.length
  notTooMany : ∀ high, s.maxArgs? = some high → kinds.length ≤ high
  room : kinds.length ≤ chestSlots - s.tags.length
  accepted : ∀ i kind, kinds[i]? = some kind → ∀ p, s.paramFor? i = some p → p.kind.Admits kind
  options : ∀ t ∈ choices, ∃ spec, s.tag? t.name = some spec ∧ t.option ∈ spec.options

namespace Script

/-- A block that a script asks for: its category and name, the kinds of its arguments and the tags
that are chosen. -/
structure Use where
  block : BlockKind
  name : String
  kinds : List ValueKind
  choices : List TagChoice := []

/-- The catalog has the block, and it is used as its entry says. -/
def Use.Fits (u : Use) : Prop :=
  ∃ s, Catalog.signature? u.block u.name = some s ∧ s.Admits u.kinds u.choices

/-- The name is that of a selector. -/
def Ident.IsSelector (i : Ident) : Prop := ∃ s : Selector, s.name = i.name

/-! ## Expressions -/

namespace Expr

/-- The kind of an expression's value. The result of an operation is a variable. -/
def kind : Expr → ValueKind
  | .constant c _ => c.kind
  | .variable .. => .variable
  | .gameValue .. => .gameValue
  | .binary .. => .variable

/-- The expression and all expressions in it. -/
def parts : Expr → List Expr
  | .binary op lhs rhs span => .binary op lhs rhs span :: (lhs.parts ++ rhs.parts)
  | e => [e]

/-- The variable that an expression is. -/
def reference? : Expr → Option VarRef
  | .variable v _ => some v
  | _ => none

/-- The block that an operation becomes. -/
def use? : Expr → Option Use
  | .binary op lhs rhs _ => some ⟨.setVar, op.action, [.variable, lhs.kind, rhs.kind], []⟩
  | _ => none

end Expr

/-! ## Conditions -/

/-- A call as a use of a block. -/
def ActionCall.use (c : ActionCall) (block : BlockKind) : Use :=
  ⟨block, c.name.name, c.args.map Expr.kind, c.tags⟩

namespace Condition

/-- What a condition asks for, unless it is a comparison. -/
def call? : Condition → Option ActionCall
  | .compare .. => none
  | .check call => some call
  | .not c => c.call?

def exprs : Condition → List Expr
  | .compare _ lhs rhs _ => [lhs, rhs]
  | .check call => call.args
  | .not c => c.exprs

def use? : Condition → Option Use
  | .compare op lhs rhs _ => some ⟨.ifVar, op.check, [lhs.kind, rhs.kind], []⟩
  | .check call => call.family.checkBlock?.map call.use
  | .not c => c.use?

end Condition

/-! ## Loops -/

namespace LoopKind

def condition? : LoopKind → Option Condition
  | .whilst c => some c
  | _ => none

def exprs : LoopKind → List Expr
  | .times count => [count]
  | .forever => []
  | .whilst c => c.exprs
  | .forEach _ list => [list]
  | .range _ first last => [first, last]

def use? : LoopKind → Option Use
  | .times count => some ⟨.loop, "Multiple", [count.kind], []⟩
  | .forever => some ⟨.loop, "Forever", [], []⟩
  | .whilst c => c.use?
  | .forEach _ list => some ⟨.loop, "ForEach", [.variable, list.kind], []⟩
  | .range _ first last => some ⟨.loop, "Range", [.variable, first.kind, last.kind], []⟩

/-- The names that a loop declares for its body. -/
def declares : LoopKind → List String
  | .forEach var _ | .range var _ _ => [var.name.name]
  | .times _ | .forever | .whilst _ => []

end LoopKind

/-! ## Statements -/

/-- The block that an assignment becomes. -/
def AssignOp.use (op : AssignOp) (kind : ValueKind) : Use :=
  match op with
  | .set => ⟨.setVar, "=", [.variable, kind], []⟩
  | .add => ⟨.setVar, "+=", [.variable, kind], []⟩
  | .sub => ⟨.setVar, "-=", [.variable, kind], []⟩
  | .mul => ⟨.setVar, "x", [.variable, .variable, kind], []⟩
  | .div => ⟨.setVar, "/", [.variable, .variable, kind], []⟩
  | .mod => ⟨.setVar, "%", [.variable, .variable, kind], []⟩

namespace Statement

/-- The names that a statement declares for those behind it. -/
def declares : Statement → List String
  | .declare v _ _ => [v.name.name]
  | _ => []

/-- The name that a statement declares, with its scope. -/
def declaration? : Statement → Option (String × Scope)
  | .declare v _ _ => some (v.name.name, v.scope.getD .line)
  | _ => none

/-- The condition of a branch or of a loop. -/
def condition? : Statement → Option Condition
  | .branch (.mk c _ _ _ _) => some c
  | .loop kind _ _ _ => kind.condition?
  | _ => none

/-- The actions and conditions that may have a target. -/
def calls : Statement → List ActionCall
  | .action a => [a]
  | s => (s.condition?.bind Condition.call?).toList

/-- The expressions of a statement, without those in its bodies. -/
def exprs : Statement → List Expr
  | .action a => a.args
  | .declare _ value _ => value.toList
  | .assign _ _ value _ => [value]
  | .branch (.mk c _ _ _ _) => c.exprs
  | .loop kind _ _ _ => kind.exprs
  | .call _ args _ => args
  | .wait duration _ _ => duration.toList
  | .start .. | .leave _ | .stop _ | .skip _ => []

/-- All expressions of a statement and those in them. -/
def parts (s : Statement) : List Expr := s.exprs.flatMap Expr.parts

/-- The variables that a statement reads or assigns to. -/
def references (s : Statement) : List VarRef :=
  match s with
  | .assign target _ _ _ => target :: s.parts.filterMap Expr.reference?
  | s => s.parts.filterMap Expr.reference?

/-- The block of a statement itself. A declaration with a value is an assignment. -/
def use? : Statement → Option Use
  | .action a => some (a.use a.family.actionBlock)
  | .declare _ value _ => value.map fun e => AssignOp.set.use e.kind
  | .assign _ op value _ => some (op.use value.kind)
  | .branch (.mk c _ _ _ _) => c.use?
  | .loop kind _ _ _ => kind.use?
  | .wait duration tags _ => some ⟨.control, "Wait", duration.toList.map Expr.kind, tags⟩
  | .call .. | .start .. | .leave _ | .stop _ | .skip _ => none

/-- The blocks of a statement and of the operations in its expressions. -/
def uses (s : Statement) : List Use := s.use?.toList ++ s.parts.filterMap Expr.use?

end Statement

/-! ## Places -/

/-- A statement, the names declared before it in the frames around it, and whether a loop is among
these frames. -/
structure Place where
  names : List String
  inLoop : Bool
  statement : Statement

mutual

/-- All places of a statement: itself, and those in its bodies. -/
def Statement.places (names : List String) (inLoop : Bool) : Statement → List Place
  | .branch b => b.places names inLoop
  | .loop kind body bodySpan span =>
    ⟨names, inLoop, .loop kind body bodySpan span⟩ ::
      Statement.placesAll (kind.declares ++ names) true body
  | s => [⟨names, inLoop, s⟩]

def Branch.places (names : List String) (inLoop : Bool) : Branch → List Place
  | .mk condition body bodySpan rest span =>
    ⟨names, inLoop, .branch (.mk condition body bodySpan rest span)⟩ ::
      (Statement.placesAll names inLoop body ++ rest.places names inLoop)

def Otherwise.places (names : List String) (inLoop : Bool) : Otherwise → List Place
  | .nothing => []
  | .block body _ => Statement.placesAll names inLoop body
  | .branch b => b.places names inLoop

/-- The places of a body. What a statement declares is known behind it. -/
def Statement.placesAll (names : List String) (inLoop : Bool) : List Statement → List Place
  | [] => []
  | s :: rest => s.places names inLoop ++ Statement.placesAll (s.declares ++ names) inLoop rest

end

namespace Item

/-- The names that an item declares for its body, the last one first. -/
def params : Item → List String
  | .function _ params _ _ _ => (params.map Ident.name).reverse
  | .event .. | .process .. => []

def places (item : Item) : List Place := Statement.placesAll item.params false item.body

end Item

/-! ## The judgment -/

/-- Nothing is wrong with a statement of the script. -/
structure Place.Sound (s : Script) (x : Place) : Prop where
  /-- A call has a function of the script and as many arguments as the function has parameters. -/
  calls : ∀ name args span, x.statement = .call name args span →
    ∃ item ∈ s.items, item.function? = some (name.name, args.length)
  starts : ∀ name span, x.statement = .start name span →
    ∃ item ∈ s.items, item.processName? = some name.name
  references : ∀ v ∈ x.statement.references, v.scope.isSome = true ∨ v.name.name ∈ x.names
  exits : ∀ span, x.statement = .stop span ∨ x.statement = .skip span → x.inLoop = true
  conditions : ∀ c call, x.statement.condition? = some c → c.call? = some call →
    call.family ≠ .control
  targets : ∀ call ∈ x.statement.calls, ∀ i, call.target = some i →
    (call.family = .player ∨ call.family = .entity) ∧ i.IsSelector
  /-- Game values may have a target too. -/
  selectors : ∀ name i span, .gameValue name (some i) span ∈ x.statement.parts → i.IsSelector
  literals : ∀ c span, .constant c span ∈ x.statement.parts → c.Valid
  uses : ∀ u ∈ x.statement.uses, u.Fits

end Script

/-- The script has a meaning. -/
structure Script.WellFormed (s : Script) : Prop where
  events : ∀ item ∈ s.items, item.Known
  /-- No event is bound twice, and all functions and processes have different names. -/
  distinct : (s.items.map Item.key).Nodup
  places : ∀ item ∈ s.items, ∀ x ∈ item.places, x.Sound s

end Plotline
