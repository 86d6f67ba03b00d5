import Plotline.Lowering.Error
import Plotline.Script.Basic
import Plotline.Json.Token

/-!
# Values of constants

What is written out in a script becomes a value if its numbers are in range. The settings of a
particle are applied in their order, so that the last one of several counts.
-/

namespace Plotline.Script

open Numeral

/-! ## Numbers -/

/-- The largest short number. -/
def largestSingle : Double := (Binary.largest : Single).convert

/-- A short number; none is larger than the largest. -/
def single (x : Double) : Except ConstantFault Single :=
  if x.magnitude ≤ largestSingle.magnitude then .ok x.convert
  else .error (.notRepresentable x)

/-- A whole number of 32 bits. -/
def whole (what : String) (x : Double) : Except ConstantFault Int32 :=
  match x.toInt? with
  | some n =>
    if -Int.pow 2 31 ≤ n ∧ n < Int.pow 2 31 then .ok (.ofInt n) else .error (.notWhole what x)
  | none => .error (.notWhole what x)

/-- A whole number from 0 to 100. -/
def percent (what : String) (x : Double) : Except ConstantFault Int32 := do
  let n ← whole what x
  if 0 ≤ n.toInt ∧ n.toInt ≤ 100 then return n else .error (.notPercent what n.toInt)

/-! ## Colors -/

/-- A numeral in base sixteen with an optional sign. -/
def hexNumeral? (cs : List Char) : Option Int :=
  let (negative, ds) := Decimal.sign cs
  if ds.isEmpty then none
  else do
    let values ← ds.mapM Json.Token.hexDigit?
    let n : Nat := values.foldl (fun n d => 16 * n + d) 0
    return if negative then -n else n

/-- The packed color of a text: a hash and six bytes that spell a number. -/
def textColor? (s : String) : Option Int :=
  match s.toList with
  | '#' :: cs => if (String.ofList cs).utf8ByteSize = 6 then hexNumeral? cs else none
  | _ => none

/-- A color that fits eight bits each for red, green and blue. -/
def packedColor (n : Int) : Except ConstantFault Int32 :=
  if 0 ≤ n ∧ n < Int.pow 2 24 then .ok (.ofInt n) else .error .color

def color : SettingValue → Except ConstantFault Int32
  | .number x => do packedColor (← whole "particle color" x).toInt
  | .text s =>
    match textColor? s with
    | some n => packedColor n
    | none => .error .color

/-! ## Particles -/

/-- A particle with one more setting that is a number. -/
def applyNumber (p : Particle) (key : String) (x : Double) : Except ConstantFault Particle :=
  match key with
  | "amount" => do return { p with amount := ← whole "particle amount" x }
  | "spread_x" => do return { p with spreadX := ← single x }
  | "spread_y" => do return { p with spreadY := ← single x }
  | "motion_x" => do return { p with motionX := some (← single x) }
  | "motion_y" => do return { p with motionY := some (← single x) }
  | "motion_z" => do return { p with motionZ := some (← single x) }
  | "size" => do return { p with size := some (← single x) }
  | "roll" => do return { p with roll := some (← single x) }
  | "size_variation" => do return { p with sizeVariation := some (← percent "size variation" x) }
  | "color_variation" => do return { p with colorVariation := some (← percent "color variation" x) }
  | "motion_variation" => do
    return { p with motionVariation := some (← percent "motion variation" x) }
  | _ => .error (.unknownSetting key)

/-- A particle with one more setting. -/
def applySetting (p : Particle) (key : String) (value : SettingValue) :
    Except ConstantFault Particle :=
  match key, value with
  | "material", .text s => .ok { p with material := some s }
  | "material", .number _ => .error (.expectsText "material")
  | "color", value => do return { p with color := some (← color value) }
  | key, .number x => applyNumber p key x
  | key, .text _ => .error (.expectsNumber key)

/-- The fault of a constant at a span. -/
def blame {α : Type} (span : Span) : Except ConstantFault α → Except LoweringError α
  | .ok a => .ok a
  | .error e => .error ⟨.invalidLiteral e, span⟩

def particle (name : String) (settings : List Setting) : Except LoweringError Particle :=
  settings.foldlM (fun p s => blame s.name.span (applySetting p s.name.name s.value)) { name }

/-! ## Constants -/

/-- The value of a constant other than a particle. -/
def Constant.plainValue (c : Constant) : Except ConstantFault Value :=
  match c with
  | .text s => .ok (.text s)
  | .number x => do return .number (← single x)
  | .location x y z pitch yaw => do
    let x ← single x
    let y ← single y
    let z ← single z
    let pitch ← single pitch
    let yaw ← single yaw
    return .location { x, y, z, pitch, yaw }
  | .vector x y z => do
    let x ← single x
    let y ← single y
    let z ← single z
    return .vector { x, y, z }
  | .sound name pitch volume => do
    let pitch ← single pitch
    let volume ← single volume
    return .sound { name, pitch, volume }
  | .potion name duration level => do
    let duration ← whole "potion duration" duration
    let level ← whole "potion level" level
    return .potion { name, duration, level }
  | .item payload => .ok (.item payload)
  | .particle name _ => .ok (.particle { name })

/-- The value of a constant that stands at a span; a fault in a setting of a particle is blamed
on the setting. -/
def Constant.value (c : Constant) (span : Span) : Except LoweringError Value :=
  match c with
  | .particle name settings => do return .particle (← Script.particle name settings)
  | c => blame span c.plainValue

end Plotline.Script
