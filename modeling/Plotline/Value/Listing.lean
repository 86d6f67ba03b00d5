import Plotline.Value.Basic
import Plotline.Numeral.Layout
import Plotline.Text.Quoted

/-!
# Listing values

The text of a value in listings.
-/

namespace Plotline

/-- A number in base sixteen and upper case with at least six digits; negative numbers as their
32 bits. -/
def colorDigits (color : Int32) : String :=
  let cs := (Nat.toDigits 16 color.toUInt32.toNat).map Char.toUpper
  String.ofList (List.replicate (6 - cs.length) '0' ++ cs)

namespace Particle

/-- A setting and its text, if it is set. -/
def setting (name : String) (text : Option String) : Option String :=
  text.map fun t => name ++ " = " ++ t

def listing (p : Particle) : String :=
  let int (n : Int32) : String := toString n.toInt
  let settings := [
    setting "amount" (int p.amount),
    setting "spread_x" p.spreadX.plain,
    setting "spread_y" p.spreadY.plain,
    setting "motion_x" (p.motionX.map (·.plain)),
    setting "motion_y" (p.motionY.map (·.plain)),
    setting "motion_z" (p.motionZ.map (·.plain)),
    setting "size" (p.size.map (·.plain)),
    setting "roll" (p.roll.map (·.plain)),
    setting "size_variation" (p.sizeVariation.map int),
    setting "color_variation" (p.colorVariation.map int),
    setting "motion_variation" (p.motionVariation.map int),
    setting "material" p.material,
    setting "color" (p.color.map fun c => "#" ++ colorDigits c)]
  "Par[" ++ p.name ++ ": " ++ ", ".intercalate (settings.filterMap id) ++ "]"

end Particle

namespace Value

def listing : Value → String
  | .text s => Text.quoted s
  | .number x => x.plain
  | .location l =>
    "Loc[" ++ ", ".intercalate [l.x.plain, l.y.plain, l.z.plain, l.pitch.plain, l.yaw.plain] ++ "]"
  | .vector v => "<" ++ ", ".intercalate [v.x.plain, v.y.plain, v.z.plain] ++ ">"
  | .sound s => "Snd[" ++ ", ".intercalate [s.name, s.pitch.plain, s.volume.plain] ++ "]"
  | .potion p =>
    "Pot[" ++ ", ".intercalate [p.name, toString p.duration.toInt, toString p.level.toInt] ++ "]"
  | .variable v => v.scope.label ++ "[" ++ v.name ++ "]"
  | .gameValue g => "Val[" ++ g.kind ++ ", " ++ g.target.name ++ "]"
  | .particle p => p.listing
  | .tag t => "\x7b" ++ t.tag ++ " = " ++ t.option ++ "\x7d"
  | .item _ => "\x7bITEM\x7d"

/-- Several values, divided by commas. -/
def listings (values : List Value) : String := ", ".intercalate (values.map listing)

end Value

end Plotline
