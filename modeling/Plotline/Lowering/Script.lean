import Plotline.Lowering.Statement

/-!
# Lowering scripts

Every item of a script becomes one unit of a program. Functions and processes may be used before
they are defined, so definitions are gathered first.
-/

namespace Plotline

open Script

/-- What has been defined by the items so far. -/
structure Gathered where
  events : List (EventKind × String) := []
  definitions : Definitions := {}

namespace Gathered

/-- Whether a function or a process has the name. -/
def defines (g : Gathered) (name : String) : Bool :=
  (g.definitions.arity? name).isSome || name ∈ g.definitions.processes

/-- The definitions with one more item. -/
def add (g : Gathered) : Item → Except LoweringError Gathered
  | .event kind name _ _ span =>
    if name.name ∉ Catalog.events kind then .error ⟨.unknownEvent name.name, name.span⟩
    else if (kind, name.name) ∈ g.events then .error ⟨.duplicateDefinition name.name, span⟩
    else .ok { g with events := (kind, name.name) :: g.events }
  | .function name params _ _ _ =>
    if g.defines name.name then .error ⟨.duplicateDefinition name.name, name.span⟩
    else
      let functions := (name.name, params.length) :: g.definitions.functions
      .ok { g with definitions := { g.definitions with functions } }
  | .process name _ _ _ =>
    if g.defines name.name then .error ⟨.duplicateDefinition name.name, name.span⟩
    else
      let processes := name.name :: g.definitions.processes
      .ok { g with definitions := { g.definitions with processes } }

end Gathered

/-- The functions and processes of a script. -/
def Script.definitions (s : Script) : Except LoweringError Definitions :=
  (s.items.foldlM Gathered.add {}).map Gathered.definitions

/-- The unit of an item. The parameters of a function live as long as its thread. -/
def Script.Item.lower (d : Definitions) (item : Item) : Except LoweringError Template :=
  match item with
  | .event kind name body _ _ => do
    let (body, _) ← Statement.lowerAll body ⟨d, true, false⟩ ⟨[], 0⟩
    return ⟨.event kind name.name, body⟩
  | .function name params body _ _ => do
    let names := params.map Ident.name
    let bindings := (names.map fun p => (p, Scope.thread)).reverse
    let (body, _) ← Statement.lowerAll body ⟨d, false, false⟩ ⟨bindings, 0⟩
    return ⟨.function name.name names false, body⟩
  | .process name body _ _ => do
    let (body, _) ← Statement.lowerAll body ⟨d, false, false⟩ ⟨[], 0⟩
    return ⟨.process name.name, body⟩

/-- The program of a script. -/
def Script.lower (s : Script) : Except LoweringError Program := do
  let d ← s.definitions
  return ⟨← s.items.mapM (Item.lower d)⟩

end Plotline
