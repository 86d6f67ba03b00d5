import Plotline.Diagnostic
import Plotline.Program.Basic
import Plotline.Value.Record

/-!
# Wire documents

A template travels as a list of blocks: the block of its header, then those of its instructions in
their order. A bracket is its setup, its head, and its body between two markers; an else body has
a block and markers of its own.

A block holds its values in the slots of a chest, plain values from the first slot on and tags from
the last one down.
-/

namespace Plotline

/-- A block that does not hold its values. -/
inductive EncodingError
  | slotOverflow (block : String) (count : Nat)
deriving DecidableEq, Repr

namespace EncodingError

def message : EncodingError → String
  | .slotOverflow block count =>
    "`" ++ block ++ "` holds " ++ toString count ++ " values but a block chest has 27 slots"

def code : EncodingError → FaultCode
  | .slotOverflow .. => ⟨501⟩

def diagnostic (e : EncodingError) : Diagnostic := { code := e.code, message := e.message }

end EncodingError

namespace Wire

/-- What lies in a slot: a value, or a parameter of a function. -/
inductive Content
  | value (v : Value)
  | param (name : String)
deriving DecidableEq, Repr

structure Item where
  content : Content
  slot : Nat
deriving DecidableEq, Repr

/-- A block of a document. Functions, processes and calls of them are `named`; `otherwise` starts
an else body. A `marker` opens or closes a body. -/
inductive Block
  | event (kind : EventKind) (name : String)
  | named (kind : BlockKind) (name : String) (items : List Item)
  | step (kind : BlockKind) (action : String) (items : List Item) (target : Option Selector)
    (subAction : Option String) (inverted : Bool)
  | otherwise
  | marker (opens loop : Bool)
deriving DecidableEq, Repr

structure Document where
  blocks : List Block
deriving DecidableEq, Repr

/-! ## Slots -/

/-- The slot of the tag that says whether a function is hidden. Parameters lie below it. -/
def hiddenSlot : Nat := 25

/-- The slot of the first tag of any other block. -/
def lastSlot : Nat := chestSlots - 1

/-- Values with the slots they get, from `next` up and, for tags, from `nextTag` down. -/
def place (next nextTag : Nat) : List Value → List Item
  | [] => []
  | v :: vs =>
    if v.isTag then ⟨.value v, nextTag⟩ :: place next (nextTag - 1) vs
    else ⟨.value v, next⟩ :: place (next + 1) nextTag vs

/-- The items of a block with the given name. -/
def items (name : String) (values : List Value) : Except EncodingError (List Item) :=
  if chestSlots < values.length then .error (.slotOverflow name values.length)
  else .ok (place 0 lastSlot values)

/-- The tag that says whether a function is hidden. -/
def hiddenTag (hidden : Bool) : Item :=
  let option := if hidden then "True" else "False"
  ⟨.value (.tag ⟨"dynamic", "Is Hidden", option, BlockKind.function.id⟩), hiddenSlot⟩

/-! ## Blocks of a template -/

def headerBlock : Header → Except EncodingError Block
  | .event kind name => .ok (.event kind name)
  | .function name params hidden =>
    if hiddenSlot < params.length then .error (.slotOverflow name (params.length + 1))
    else
      let items := params.zipIdx.map fun (param, slot) => ⟨.param param, slot⟩
      .ok (.named .function name (items ++ [hiddenTag hidden]))
  | .process name => .ok (.named .process name [hiddenTag false])

def headBlock : Head → Except EncodingError Block
  | .branch c => do return .step c.block c.name (← items c.name c.args) c.target none c.inverted
  | .loop l => do return .step .loop l.name (← items l.name l.args) none l.subAction l.inverted

def callBlock (c : Call) : Except EncodingError Block := do
  let kind := match c.kind with
    | .function => BlockKind.callFunction
    | .process => BlockKind.startProcess
  return .named kind c.name (← items c.name c.args)

mutual

/-- The blocks of an instruction. -/
def blocks : Instruction → Except EncodingError (List Block)
  | .action a => do return [.step a.block a.name (← items a.name a.args) a.target none false]
  | .call c => do return [← callBlock c]
  | .bracket head setup body none => do
    let setup ← blocksAll setup
    let first ← headBlock head
    let body ← blocksAll body
    return setup ++ first :: .marker true head.isLoop :: body ++ [.marker false head.isLoop]
  | .bracket head setup body (some rest) => do
    let setup ← blocksAll setup
    let first ← headBlock head
    let body ← blocksAll body
    let rest ← blocksAll rest
    return setup ++ first :: .marker true head.isLoop :: body ++
      .marker false head.isLoop :: .otherwise :: .marker true false :: rest ++
        [.marker false false]

def blocksAll : List Instruction → Except EncodingError (List Block)
  | [] => .ok []
  | i :: is => do
    let first ← blocks i
    let rest ← blocksAll is
    return first ++ rest

end

/-! ## Documents as trees -/

def Content.toJson : Content → Json
  | .value v => v.toRecord
  | .param name =>
    .obj [("data", .obj [("name", .str name), ("optional", .bool false), ("plural", .bool false),
      ("type", .str "any")]), ("id", .str "pn_el")]

def Item.toJson (i : Item) : Json := .obj [("item", i.content.toJson), ("slot", .int i.slot)]

def itemsJson (items : List Item) : Json := .obj [("items", .arr (items.map Item.toJson))]

def eventBlock : EventKind → BlockKind
  | .player => .playerEvent
  | .entity => .entityEvent

def Block.toJson : Block → Json
  | .event kind name =>
    .obj [("action", .str name), ("block", .str (eventBlock kind).id), ("id", .str "block")]
  | .named kind name items =>
    .obj [("args", itemsJson items), ("block", .str kind.id), ("data", .str name),
      ("id", .str "block")]
  | .step kind action items target subAction inverted =>
    .obj ([("action", .str action), ("args", itemsJson items), ("block", .str kind.id),
        ("id", .str "block")] ++
      (if inverted then [("inverted", .str "NOT")] else []) ++
      (subAction.map fun s => ("subAction", .str s)).toList ++
      (target.map fun t => ("target", .str t.name)).toList)
  | .otherwise => .obj [("block", .str BlockKind.otherwise.id), ("id", .str "block")]
  | .marker opens loop =>
    .obj [("direct", .str (if opens then "open" else "close")), ("id", .str "bracket"),
      ("type", .str (if loop then "repeat" else "norm"))]

/-- The document as a tree, the members of its objects sorted by key. -/
def Document.toJson (d : Document) : Json := .obj [("blocks", .arr (d.blocks.map Block.toJson))]

end Wire

/-- The wire document of a template. -/
def Template.document (t : Template) : Except EncodingError Wire.Document := do
  let header ← Wire.headerBlock t.header
  let body ← Wire.blocksAll t.body
  return ⟨header :: body⟩

end Plotline
