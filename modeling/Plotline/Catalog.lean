import Plotline.Program.Basic

/-!
# The catalog of blocks

Which actions, conditions, loops and events there are: the parameters that each block takes and
the tags that it carries.
-/

namespace Plotline

/-- What a parameter accepts. -/
inductive ArgKind
  | any
  | text
  | number
  | location
  | vector
  | sound
  | potion
  | particle
  | item
  | variable
deriving DecidableEq, Repr

namespace ArgKind

def label : ArgKind → String
  | .any => "any value"
  | .text => "text"
  | .number => "a number"
  | .location => "a location"
  | .vector => "a vector"
  | .sound => "a sound"
  | .potion => "a potion"
  | .particle => "a particle"
  | .item => "an item"
  | .variable => "a variable"

/-- The kind of value that is meant, where there is only one. -/
def exactKind? : ArgKind → Option ValueKind
  | .any => none
  | .text => some .text
  | .number => some .number
  | .location => some .location
  | .vector => some .vector
  | .sound => some .sound
  | .potion => some .potion
  | .particle => some .particle
  | .item => some .item
  | .variable => some .variable

/-- Whether a value may stand for the parameter. Variables and game values may stand for anything
but a variable that is written to, as their type is only known when they are used; tags for
nothing. -/
def accepts (k : ArgKind) (v : Value) : Bool :=
  match v.kind with
  | .tag => false
  | .variable => true
  | .gameValue => k ≠ .variable
  | kind => k = .any || k.exactKind? = some kind

end ArgKind

structure Param where
  name : String
  kind : ArgKind
  optional : Bool := false
  /-- Takes all arguments that are left. Only the last parameter may. -/
  plural : Bool := false
deriving DecidableEq, Repr

/-- A tag with its options; the standard one counts when none is chosen. -/
structure TagSpec where
  name : String
  standard : String
  others : List String
deriving DecidableEq, Repr

def TagSpec.options (t : TagSpec) : List String := t.standard :: t.others

/-- How many arguments are expected. -/
inductive Arity
  | exactly (n : Nat)
  | between (low high : Nat)
  | atLeast (n : Nat)
  | atMost (n : Nat)
deriving DecidableEq, Repr

def Arity.label : Arity → String
  | .exactly n => toString n
  | .between low high => toString low ++ " to " ++ toString high
  | .atLeast n => "at least " ++ toString n
  | .atMost n => "at most " ++ toString n

structure Signature where
  params : List Param
  tags : List TagSpec := []
deriving DecidableEq, Repr

namespace Signature

def minArgs (s : Signature) : Nat := s.params.countP fun p => !p.optional

/-- The largest number of arguments, unless the last parameter takes all that are left. -/
def maxArgs? (s : Signature) : Option Nat :=
  match s.params.getLast? with
  | some p => if p.plural then none else some s.params.length
  | none => some s.params.length

def arity (s : Signature) : Arity :=
  match s.maxArgs? with
  | some high => if high = s.minArgs then .exactly high else .between s.minArgs high
  | none => .atLeast s.minArgs

/-- The parameter that the argument at an index stands for. -/
def paramFor? (s : Signature) (index : Nat) : Option Param :=
  match s.params[index]? with
  | some p => some p
  | none => s.params.getLast?.filter fun p => p.plural

def tag? (s : Signature) (name : String) : Option TagSpec := s.tags.find? fun t => t.name = name

end Signature

namespace Catalog

/-! ## Entries -/

def req (name : String) (kind : ArgKind) : Param := { name, kind }

def opt (name : String) (kind : ArgKind) : Param := { name, kind, optional := true }

/-- One or more. -/
def many (name : String) (kind : ArgKind) : Param := { name, kind, plural := true }

/-- Any number. -/
def anyMany (name : String) (kind : ArgKind) : Param :=
  { name, kind, optional := true, plural := true }

def merging : TagSpec := ⟨"Text Value Merging", "Add spaces", ["No spaces"]⟩

def alignment : TagSpec := ⟨"Alignment Mode", "Regular", ["Centered"]⟩

def timeUnit : TagSpec := ⟨"Time Unit", "Ticks", ["Seconds", "Minutes"]⟩

def playerActions : List (String × Signature) := [
  ("SendMessage", ⟨[anyMany "message" .any], [alignment, merging]⟩),
  ("ActionBar", ⟨[anyMany "message" .any], [merging]⟩),
  ("SendTitle", ⟨[req "title" .any, opt "subtitle" .any, opt "duration" .number,
    opt "fade_in" .number, opt "fade_out" .number], []⟩),
  ("GiveItems", ⟨[many "items" .item], []⟩),
  ("SetHotbar", ⟨[many "items" .item], []⟩),
  ("ClearInv", ⟨[], [⟨"Clear Crafting and Cursor", "True", ["False"]⟩]⟩),
  ("Teleport", ⟨[req "location" .location], [⟨"Keep Current Rotation", "False", ["True"]⟩]⟩),
  ("PlaySound", ⟨[many "sounds" .sound], []⟩),
  ("GivePotion", ⟨[many "effects" .potion], [⟨"Overwrite Effect", "False", ["True"]⟩]⟩),
  ("Heal", ⟨[opt "amount" .number], []⟩),
  ("Damage", ⟨[req "amount" .number], []⟩),
  ("SetHealth", ⟨[req "health" .number], []⟩),
  ("LaunchUp", ⟨[req "power" .number], []⟩),
  ("SetVelocity", ⟨[req "velocity" .vector], []⟩),
  ("SetGameMode", ⟨[], [⟨"Game Mode", "Survival", ["Creative", "Adventure", "Spectator"]⟩]⟩),
  ("Particle", ⟨[req "effect" .particle], []⟩),
  ("Kick", ⟨[], []⟩)]

def entityActions : List (String × Signature) := [
  ("Teleport", ⟨[req "location" .location], []⟩),
  ("Damage", ⟨[req "amount" .number], []⟩),
  ("Heal", ⟨[opt "amount" .number], []⟩),
  ("SetName", ⟨[req "name" .any], []⟩),
  ("SetVelocity", ⟨[req "velocity" .vector], []⟩),
  ("Remove", ⟨[], []⟩)]

def gameActions : List (String × Signature) := [
  ("Particle", ⟨[req "effect" .particle, many "locations" .location], []⟩),
  ("Explosion", ⟨[req "location" .location, opt "power" .number], []⟩),
  ("CancelEvent", ⟨[], []⟩),
  ("PlaySound", ⟨[req "sound" .sound, many "locations" .location], []⟩)]

def variableActions : List (String × Signature) := [
  ("=", ⟨[req "variable" .variable, req "value" .any], []⟩),
  ("+", ⟨[req "result" .variable, many "operands" .number], []⟩),
  ("-", ⟨[req "result" .variable, many "operands" .number], []⟩),
  ("x", ⟨[req "result" .variable, many "operands" .number], []⟩),
  ("/", ⟨[req "result" .variable, many "operands" .number], []⟩),
  ("%", ⟨[req "result" .variable, many "operands" .number], []⟩),
  ("+=", ⟨[req "variable" .variable, opt "amount" .number], []⟩),
  ("-=", ⟨[req "variable" .variable, opt "amount" .number], []⟩),
  ("RandomNumber", ⟨[req "result" .variable, req "min" .number, req "max" .number],
    [⟨"Rounding Mode", "Whole number", ["Decimal number"]⟩]⟩),
  ("String", ⟨[req "result" .variable, anyMany "values" .any], [merging]⟩),
  ("CreateList", ⟨[req "list" .variable, anyMany "values" .any], []⟩),
  ("AppendValue", ⟨[req "list" .variable, many "values" .any], []⟩)]

def controlActions : List (String × Signature) := [
  ("Wait", ⟨[opt "duration" .number], [timeUnit]⟩),
  ("Return", ⟨[], []⟩),
  ("End", ⟨[], []⟩),
  ("Skip", ⟨[], []⟩),
  ("StopRepeat", ⟨[], []⟩)]

def variableChecks : List (String × Signature) := [
  ("=", ⟨[req "value" .any, many "compare" .any], []⟩),
  ("!=", ⟨[req "value" .any, many "compare" .any], []⟩),
  (">", ⟨[req "value" .number, req "compare" .number], []⟩),
  (">=", ⟨[req "value" .number, req "compare" .number], []⟩),
  ("<", ⟨[req "value" .number, req "compare" .number], []⟩),
  ("<=", ⟨[req "value" .number, req "compare" .number], []⟩),
  ("VarExists", ⟨[req "variable" .variable], []⟩),
  ("ListContains", ⟨[req "list" .variable, many "values" .any], []⟩)]

def playerChecks : List (String × Signature) := [
  ("IsSneaking", ⟨[], []⟩),
  ("IsSprinting", ⟨[], []⟩),
  ("IsFlying", ⟨[], []⟩),
  ("IsGrounded", ⟨[], []⟩),
  ("HasItem", ⟨[many "items" .item], []⟩),
  ("NameEquals", ⟨[many "names" .text], []⟩),
  ("IsNear", ⟨[req "location" .location, opt "radius" .number], []⟩)]

def entityChecks : List (String × Signature) := [
  ("IsNear", ⟨[req "location" .location, opt "radius" .number], []⟩),
  ("IsMob", ⟨[], []⟩)]

def gameChecks : List (String × Signature) := [
  ("HasPlayer", ⟨[req "name" .text], []⟩),
  ("CommandEquals", ⟨[many "commands" .text], []⟩),
  ("EventCancelled", ⟨[], []⟩)]

def loops : List (String × Signature) := [
  ("Multiple", ⟨[req "times" .number], []⟩),
  ("Forever", ⟨[], []⟩),
  ("ForEach", ⟨[req "variable" .variable, req "list" .any], []⟩),
  ("Range", ⟨[req "variable" .variable, req "start" .number, req "end" .number], []⟩)]

/-- The entries of a category of blocks. -/
def entries : BlockKind → List (String × Signature)
  | .playerAction => playerActions
  | .entityAction => entityActions
  | .gameAction => gameActions
  | .setVar => variableActions
  | .control => controlActions
  | .ifVar => variableChecks
  | .ifPlayer => playerChecks
  | .ifEntity => entityChecks
  | .ifGame => gameChecks
  | .loop => loops
  | _ => []

/-- The signature of a block. -/
def signature? (block : BlockKind) (name : String) : Option Signature :=
  ((entries block).find? fun e => e.1 = name).map Prod.snd

/-- The events that a script may react to. -/
def events : EventKind → List String
  | .player =>
    ["Join", "Leave", "Command", "RightClick", "LeftClick", "Sneak", "Unsneak", "Jump", "Walk",
      "Death", "Respawn", "KillPlayer", "PlayerDmgPlayer", "PlayerTakeDmg", "BreakBlock",
      "PlaceBlock", "Loop"]
  | .entity => ["EntityDmgEntity", "EntityDeath", "PlayerDmgEntity", "EntityExplode", "ProjHit"]

end Catalog

end Plotline
