import Plotline.Numeral.Binary

/-!
# Values

What is put into the slots of a block.
-/

namespace Plotline

open Numeral

/-! ## Scopes and selectors -/

/-- How long a variable lives: for one run of one template, for the running thread, until the
plot restarts, or beyond that. -/
inductive Scope
  | line
  | thread
  | game
  | saved
deriving DecidableEq, Repr

namespace Scope

def all : List Scope := [.line, .thread, .game, .saved]

/-- The name in listings. -/
def label : Scope → String
  | .line => "line"
  | .thread => "local"
  | .game => "game"
  | .saved => "saved"

/-- The name in wire records. -/
def wireName : Scope → String
  | .line => "line"
  | .thread => "local"
  | .game => "unsaved"
  | .saved => "saved"

def ofWireName? (name : String) : Option Scope := all.find? fun s => s.wireName = name

/-- The scope of a variable that has to outlive its template. -/
def promoted : Scope → Scope
  | .line => .game
  | s => s

end Scope

/-- Whom an action or a game value is about. -/
inductive Selector
  | default
  | selection
  | killer
  | damager
  | victim
  | shooter
  | projectile
  | lastEntity
  | allPlayers
  | allEntities
deriving DecidableEq, Repr

namespace Selector

def all : List Selector :=
  [.default, .selection, .killer, .damager, .victim, .shooter, .projectile, .lastEntity,
    .allPlayers, .allEntities]

def name : Selector → String
  | .default => "Default"
  | .selection => "Selection"
  | .killer => "Killer"
  | .damager => "Damager"
  | .victim => "Victim"
  | .shooter => "Shooter"
  | .projectile => "Projectile"
  | .lastEntity => "LastEntity"
  | .allPlayers => "AllPlayers"
  | .allEntities => "AllEntities"

def ofName? (name : String) : Option Selector := all.find? fun s => s.name = name

end Selector

/-! ## Values -/

structure Location where
  x : Single
  y : Single
  z : Single
  pitch : Single
  yaw : Single
deriving DecidableEq, Repr

structure Vector3 where
  x : Single
  y : Single
  z : Single
deriving DecidableEq, Repr

structure Sound where
  name : String
  pitch : Single
  volume : Single
deriving DecidableEq, Repr

/-- An effect with its duration in ticks. -/
structure Potion where
  name : String
  duration : Int32
  level : Int32
deriving DecidableEq, Repr

structure Variable where
  name : String
  scope : Scope
deriving DecidableEq, Repr

structure GameValue where
  kind : String
  target : Selector
deriving DecidableEq, Repr

/-- A particle effect: its cluster, and settings that may be left open. A color packs red, green
and blue into eight bits each. -/
structure Particle where
  name : String
  amount : Int32 := 1
  spreadX : Single := .zero
  spreadY : Single := .zero
  motionX : Option Single := none
  motionY : Option Single := none
  motionZ : Option Single := none
  size : Option Single := none
  roll : Option Single := none
  sizeVariation : Option Int32 := none
  colorVariation : Option Int32 := none
  motionVariation : Option Int32 := none
  material : Option String := none
  color : Option Int32 := none
deriving DecidableEq, Repr

/-- An option chosen for a tag, stamped with the action and the block it belongs to. -/
structure Tag where
  action : String
  tag : String
  option : String
  block : String
deriving DecidableEq, Repr

inductive Value
  | text (s : String)
  | number (x : Single)
  | location (l : Location)
  | vector (v : Vector3)
  | sound (s : Sound)
  | potion (p : Potion)
  | variable (v : Variable)
  | gameValue (g : GameValue)
  | particle (p : Particle)
  | tag (t : Tag)
  | item (payload : String)
deriving DecidableEq, Repr

/-- Which alternative a value is. -/
inductive ValueKind
  | text
  | number
  | location
  | vector
  | sound
  | potion
  | variable
  | gameValue
  | particle
  | tag
  | item
deriving DecidableEq, Repr

def ValueKind.label : ValueKind → String
  | .text => "text"
  | .number => "number"
  | .location => "location"
  | .vector => "vector"
  | .sound => "sound"
  | .potion => "potion"
  | .variable => "variable"
  | .gameValue => "game value"
  | .particle => "particle"
  | .tag => "tag"
  | .item => "item"

namespace Value

/-- The variable of the given name and scope. -/
def var (name : String) (scope : Scope) : Value := .variable ⟨name, scope⟩

def kind : Value → ValueKind
  | .text _ => .text
  | .number _ => .number
  | .location _ => .location
  | .vector _ => .vector
  | .sound _ => .sound
  | .potion _ => .potion
  | .variable _ => .variable
  | .gameValue _ => .gameValue
  | .particle _ => .particle
  | .tag _ => .tag
  | .item _ => .item

def isTag : Value → Bool
  | .tag _ => true
  | _ => false

/-- The value with the scope of a variable changed. -/
def mapScope (f : Variable → Scope) : Value → Value
  | .variable v => .variable { v with scope := f v }
  | v => v

end Value

end Plotline
