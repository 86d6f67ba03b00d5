import Plotline.Program.Basic

/-!
# Promoting variables

A variable of line scope lives for one run of one template. When the templates of a unit share
one, it gets game scope in all of them. Game variables are shared by the whole plot, so a promoted
variable may collide with one that is there already.
-/

namespace Plotline

/-- A variable of a unit that gets game scope instead of line scope. -/
structure Promotion where
  unit : String
  name : String
deriving DecidableEq, Repr

/-- A list with only the first of equal elements. -/
def distinct : List String → List String
  | [] => []
  | x :: xs => x :: (distinct xs).filter (· ≠ x)

/-- The name of a variable of the given scope. -/
def Value.nameIn? (scope : Scope) : Value → Option String
  | .variable v => if v.scope = scope then some v.name else none
  | _ => none

namespace Template

/-- The names of the template's variables of a scope, in order of appearance. -/
def namesIn (scope : Scope) (t : Template) : List String := t.values.filterMap (Value.nameIn? scope)

/-- The template with the given line variables promoted. -/
def promote (names : List String) (t : Template) : Template :=
  t.mapValues (Value.mapScope fun v => if v.name ∈ names then v.scope.promoted else v.scope)

end Template

/-- The line variables that at least two templates share, in order of first appearance. -/
def sharedNames (templates : List Template) : List String :=
  (distinct (templates.flatMap (Template.namesIn .line))).filter fun name =>
    2 ≤ templates.countP fun t => name ∈ t.namesIn .line

/-- The templates of a unit after promotion. -/
structure PromotedUnit where
  name : String
  templates : List Template
  promoted : List String

/-- Promotes the shared line variables of a unit. -/
def promoteUnit (name : String) (templates : List Template) : PromotedUnit :=
  let names := sharedNames templates
  ⟨name, templates.map (Template.promote names), names⟩

namespace PromotedUnit

def promotions (u : PromotedUnit) : List Promotion := u.promoted.map fun v => ⟨u.name, v⟩

/-- The promotions of units, one after the other, that meet a name in use: one of `taken`, or one
promoted in an earlier unit. -/
def collisions (taken : List String) : List PromotedUnit → List Promotion
  | [] => []
  | u :: us => (u.promotions.filter (·.name ∈ taken)) ++ collisions (taken ++ u.promoted) us

end PromotedUnit

end Plotline
