import Plotline.Lowering.Error
import Plotline.Script.Basic

/-!
# Arguments of a block

`completeArgs` checks the arguments of a block against the catalog and adds one value for every
tag of the block, with the option that was chosen last or else the standard one.
-/

namespace Plotline

open Script (TagChoice)

/-- The arguments are as many as the signature and the slots of the block allow. Every tag takes
a slot. -/
def checkCount (s : Signature) (name : String) (count : Nat) (span : Span) :
    Except LoweringError Unit :=
  let room := chestSlots - s.tags.length
  if count < s.minArgs ∨ s.maxArgs?.any (· < count) then
    .error ⟨.argumentCount name s.arity count, span⟩
  else if room < count then .error ⟨.argumentCount name (.atMost room) count, span⟩
  else .ok ()

/-- Every argument from `index` on is accepted by the parameter that it stands for. -/
def checkKinds (s : Signature) (name : String) (span : Span) :
    Nat → List Value → Except LoweringError Unit
  | _, [] => .ok ()
  | index, v :: vs =>
    match s.paramFor? index with
    | some p =>
      if p.kind.accepts v then checkKinds s name span (index + 1) vs
      else .error ⟨.argumentKind name (index + 1) p.name p.kind v.kind, span⟩
    | none => checkKinds s name span (index + 1) vs

/-- Every chosen option belongs to a tag of the block. -/
def checkTags (s : Signature) (name : String) : List TagChoice → Except LoweringError Unit
  | [] => .ok ()
  | t :: ts =>
    match s.tag? t.name with
    | none => .error ⟨.unknownTag name t.name, t.span⟩
    | some spec =>
      if t.option ∈ spec.options then checkTags s name ts
      else .error ⟨.invalidTagOption t.name t.option spec.options, t.span⟩

/-- The option of a tag: the one chosen last, else the standard one. -/
def chosenOption (choices : List TagChoice) (spec : TagSpec) : String :=
  match choices.reverse.find? fun t => t.name = spec.name with
  | some t => t.option
  | none => spec.standard

/-- The values of a block's tags. -/
def tagValues (block : BlockKind) (name : String) (s : Signature) (choices : List TagChoice) :
    List Value :=
  s.tags.map fun spec =>
    let option := chosenOption choices spec
    .tag { action := name, tag := spec.name, option, block := block.id }

/-- The arguments of a block, checked against the catalog, with its tags. -/
def completeArgs (block : BlockKind) (name : String) (args : List Value)
    (choices : List TagChoice) (span : Span) : Except LoweringError (List Value) :=
  match Catalog.signature? block name with
  | none => .error ⟨.unknownInstruction block name, span⟩
  | some s => do
    checkCount s name args.length span
    checkKinds s name span 0 args
    checkTags s name choices
    return args ++ tagValues block name s choices

/-- An action without a target. -/
def plainAction (block : BlockKind) (name : String) (args : List Value) (choices : List TagChoice)
    (span : Span) : Except LoweringError Instruction := do
  return .action { block, name, args := ← completeArgs block name args choices span }

/-- An action on a variable. -/
def setVariable (name : String) (args : List Value) (span : Span) :
    Except LoweringError Instruction := plainAction .setVar name args [] span

end Plotline
