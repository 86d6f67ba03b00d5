import Plotline.Program.Basic

/-!
# Reassembling programs

The inverse of cutting units into templates: every call of a continuation is replaced by what the
continuation holds. Continuations may call continuations, each other one on the way, so there are
at most as many steps in a row as there are continuations.
-/

namespace Plotline

namespace Instruction

mutual

/-- An instruction with the calls of functions that `body?` knows replaced by their bodies. -/
def inlined (body? : String → Option (List Instruction)) : Instruction → List Instruction
  | .action a => [.action a]
  | .call c =>
    match c.kind with
    | .function => (body? c.name).getD [.call c]
    | .process => [.call c]
  | .bracket head setup body none =>
    [.bracket head (inlinedAll body? setup) (inlinedAll body? body) none]
  | .bracket head setup body (some rest) =>
    [.bracket head (inlinedAll body? setup) (inlinedAll body? body) (some (inlinedAll body? rest))]

def inlinedAll (body? : String → Option (List Instruction)) : List Instruction → List Instruction
  | [] => []
  | i :: is => inlined body? i ++ inlinedAll body? is

end

end Instruction

/-- The bodies of continuations by name. -/
abbrev Continuations := List (String × List Instruction)

namespace Continuations

/-- The continuations among templates. -/
def ofTemplates (templates : List Template) : Continuations :=
  templates.filterMap fun t => if t.header.isContinuation then some (t.name, t.body) else none

/-- The body of a continuation; of several with one name the last counts. -/
def body? (cs : Continuations) (name : String) : Option (List Instruction) :=
  (cs.reverse.find? fun c => c.1 = name).map Prod.snd

/-- The body of a continuation in which calls are replaced, at most `depth` in a row. -/
def expanded? (cs : Continuations) : Nat → String → Option (List Instruction)
  | 0, _ => none
  | depth + 1, name => (cs.body? name).map (Instruction.inlinedAll (expanded? cs depth))

end Continuations

/-- The program whose units were cut into the templates. -/
def reassemble (templates : List Template) : Program :=
  let cs := Continuations.ofTemplates templates
  let units := templates.filter fun t => !t.header.isContinuation
  ⟨units.map fun t => ⟨t.header, Instruction.inlinedAll (cs.expanded? cs.length) t.body⟩⟩

end Plotline
