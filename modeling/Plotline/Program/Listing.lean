import Plotline.Program.Basic
import Plotline.Value.Listing
import Plotline.Text.Blank

/-!
# Program listings

Indented listings of instructions, templates and programs.
-/

namespace Plotline

def Head.listing : Head → String
  | .branch c =>
    c.block.id ++ " " ++ (if c.inverted then "not " else "") ++ c.name ++ targetListing c.target ++
      "(" ++ Value.listings c.args ++ ")"
  | .loop l =>
    let condition := match l.subAction with
      | some name => (if l.inverted then " while not " else " while ") ++ name
      | none => ""
    "repeat " ++ l.name ++ "(" ++ Value.listings l.args ++ ")" ++ condition
where
  targetListing : Option Selector → String
    | some t => "<" ++ t.name ++ ">"
    | none => ""

namespace Instruction

/-- Four spaces a level. -/
def indent (depth : Nat) : String := String.ofList (List.replicate (4 * depth) ' ')

mutual

/-- The lines of an instruction, `depth` levels deep. A setup stands before its head. -/
def lines (depth : Nat) : Instruction → List String
  | .action a =>
    [indent depth ++ a.block.id ++ " " ++ a.name ++ Head.listing.targetListing a.target ++ "(" ++
      Value.listings a.args ++ ")"]
  | .call c =>
    let verb := match c.kind with
      | .function => "call_func "
      | .process => "start_process "
    [indent depth ++ verb ++ c.name ++ "(" ++ Value.listings c.args ++ ")"]
  | .bracket head setup body none =>
    linesAll depth setup ++ [indent depth ++ head.listing ++ " \x7b"] ++
      linesAll (depth + 1) body ++ [indent depth ++ "\x7d"]
  | .bracket head setup body (some rest) =>
    linesAll depth setup ++ [indent depth ++ head.listing ++ " \x7b"] ++
      linesAll (depth + 1) body ++ [indent depth ++ "\x7d else \x7b"] ++
      linesAll (depth + 1) rest ++ [indent depth ++ "\x7d"]

def linesAll (depth : Nat) : List Instruction → List String
  | [] => []
  | i :: is => lines depth i ++ linesAll depth is

end

/-- The listing of one instruction, without white space at its end. -/
def listing (i : Instruction) : String := Text.trimEnd ("\n".intercalate (lines 0 i))

end Instruction

def Header.listing : Header → String
  | .event .player name => "on " ++ name
  | .event .entity name => "on entity " ++ name
  | .function name params hidden =>
    (if hidden then "hidden " else "") ++ "fn " ++ name ++ "(" ++ ", ".intercalate params ++ ")"
  | .process name => "process " ++ name

def Template.listing (t : Template) : String :=
  let lines := [t.header.listing ++ " \x7b"] ++ Instruction.linesAll 1 t.body ++ ["\x7d"]
  String.join (lines.map (· ++ "\n"))

def Program.listing (p : Program) : String := String.join (p.units.map Template.listing)

end Plotline
