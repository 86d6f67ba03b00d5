/-!
# Plot tiers

Plots come in sizes, which say how many slots a template may have.
-/

namespace Plotline

inductive Tier
  | basic
  | large
  | massive
deriving DecidableEq, Repr

namespace Tier

def all : List Tier := [.basic, .large, .massive]

def capacity : Tier → Nat
  | .basic => 50
  | .large => 100
  | .massive => 300

def name : Tier → String
  | .basic => "basic"
  | .large => "large"
  | .massive => "massive"

def ofName? (name : String) : Option Tier := all.find? fun t => t.name = name

/-- The message about a name that no tier has. -/
def unknownMessage (name : String) : String :=
  "unknown plot tier `" ++ name ++ "` (expected basic, large or massive)"

end Tier

end Plotline
