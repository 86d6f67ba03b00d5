import Plotline.Fitting.Pack
import Plotline.Fitting.Promotion

/-!
# Fitting programs

The templates of a program: every unit is fitted on its own, then the variables that its templates
share are promoted.
-/

namespace Plotline

/-- A program cut into templates, unit by unit. `collisions` are the promotions of names that were
in use. -/
structure FittedProgram where
  units : List PromotedUnit
  collisions : List Promotion

namespace FittedProgram

def templates (f : FittedProgram) : List Template := f.units.flatMap PromotedUnit.templates

def promotions (f : FittedProgram) : List Promotion := f.units.flatMap PromotedUnit.promotions

end FittedProgram

/-- The templates of a program on a plot. -/
def Program.fit (p : Program) (capacity : Nat) : Except FittingError FittedProgram := do
  let groups ← p.units.mapM (Plotline.fit capacity)
  let taken := groups.flatten.flatMap (Template.namesIn .game)
  let units := List.zipWith (fun u ts => promoteUnit u.name ts) p.units groups
  return ⟨units, PromotedUnit.collisions taken units⟩

end Plotline
