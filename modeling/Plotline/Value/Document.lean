import Plotline.Value.Record

/-!
# Values in program documents

How values stand in the document of a program. Numbers have the digits of their plain texts, as in
records.
-/

namespace Plotline

open Numeral

/-- A setting that may be open. -/
def documentOption {α : Type} (write : α → Json) : Option α → Json
  | some a => write a
  | none => .null

namespace Scope

/-- The scopes by their names in listings. -/
def table : List (String × Scope) := all.map fun s => (s.label, s)

def ofJson? : Json → Option Scope := Json.name? table

end Scope

namespace Selector

def ofJson? : Json → Option Selector := Json.name? (all.map fun s => (s.name, s))

end Selector

namespace Particle

def toJson (p : Particle) : Json :=
  let int (n : Int32) : Json := .int n.toInt
  .obj [
    ("amount", int p.amount),
    ("color", documentOption int p.color),
    ("color_variation", documentOption int p.colorVariation),
    ("material", documentOption Json.str p.material),
    ("motion_variation", documentOption int p.motionVariation),
    ("motion_x", documentOption shortNumber p.motionX),
    ("motion_y", documentOption shortNumber p.motionY),
    ("motion_z", documentOption shortNumber p.motionZ),
    ("name", .str p.name),
    ("roll", documentOption shortNumber p.roll),
    ("size", documentOption shortNumber p.size),
    ("size_variation", documentOption int p.sizeVariation),
    ("spread_x", shortNumber p.spreadX),
    ("spread_y", shortNumber p.spreadY)]

def ofJson? (j : Json) : Option Particle := do
  let r ← j.record? ["name", "amount", "spread_x", "spread_y", "motion_x", "motion_y", "motion_z",
    "size", "roll", "size_variation", "color_variation", "motion_variation", "material", "color"]
  let name ← r.required "name" Json.string?
  let amount ← r.required "amount" Json.int32?
  let spreadX ← r.required "spread_x" Json.single?
  let spreadY ← r.required "spread_y" Json.single?
  let motionX ← r.optional "motion_x" Json.single?
  let motionY ← r.optional "motion_y" Json.single?
  let motionZ ← r.optional "motion_z" Json.single?
  let size ← r.optional "size" Json.single?
  let roll ← r.optional "roll" Json.single?
  let sizeVariation ← r.optional "size_variation" Json.int32?
  let colorVariation ← r.optional "color_variation" Json.int32?
  let motionVariation ← r.optional "motion_variation" Json.int32?
  let material ← r.optional "material" Json.string?
  let color ← r.optional "color" Json.int32?
  return {
    name, amount, spreadX, spreadY, motionX, motionY, motionZ, size, roll, sizeVariation,
    colorVariation, motionVariation, material, color }

end Particle

namespace Value

def toJson : Value → Json
  | .text s => .obj [("text", .str s)]
  | .number x => .obj [("number", shortNumber x)]
  | .location l =>
    .obj [("location", .obj [("pitch", shortNumber l.pitch), ("x", shortNumber l.x),
      ("y", shortNumber l.y), ("yaw", shortNumber l.yaw), ("z", shortNumber l.z)])]
  | .vector v =>
    .obj [("vector", .obj [("x", shortNumber v.x), ("y", shortNumber v.y),
      ("z", shortNumber v.z)])]
  | .sound s =>
    .obj [("sound", .obj [("name", .str s.name), ("pitch", shortNumber s.pitch),
      ("volume", shortNumber s.volume)])]
  | .potion p =>
    .obj [("potion", .obj [("duration", .int p.duration.toInt), ("level", .int p.level.toInt),
      ("name", .str p.name)])]
  | .variable v =>
    .obj [("variable", .obj [("name", .str v.name), ("scope", .str v.scope.label)])]
  | .gameValue g =>
    .obj [("game_value", .obj [("kind", .str g.kind), ("target", .str g.target.name)])]
  | .particle p => .obj [("particle", p.toJson)]
  | .tag t =>
    .obj [("tag", .obj [("action", .str t.action), ("block", .str t.block),
      ("option", .str t.option), ("tag", .str t.tag)])]
  | .item payload => .obj [("item", .obj [("payload", .str payload)])]

def ofJson? (j : Json) : Option Value := do
  let (name, content) ← j.choice?
  let content ← content
  match name with
  | "text" => return .text (← content.string?)
  | "number" => return .number (← content.single?)
  | "location" =>
    let r ← content.record? ["x", "y", "z", "pitch", "yaw"]
    let x ← r.required "x" Json.single?
    let y ← r.required "y" Json.single?
    let z ← r.required "z" Json.single?
    let pitch ← r.required "pitch" Json.single?
    let yaw ← r.required "yaw" Json.single?
    return .location { x, y, z, pitch, yaw }
  | "vector" =>
    let r ← content.record? ["x", "y", "z"]
    let x ← r.required "x" Json.single?
    let y ← r.required "y" Json.single?
    let z ← r.required "z" Json.single?
    return .vector { x, y, z }
  | "sound" =>
    let r ← content.record? ["name", "pitch", "volume"]
    let name ← r.required "name" Json.string?
    let pitch ← r.required "pitch" Json.single?
    let volume ← r.required "volume" Json.single?
    return .sound { name, pitch, volume }
  | "potion" =>
    let r ← content.record? ["name", "duration", "level"]
    let name ← r.required "name" Json.string?
    let duration ← r.required "duration" Json.int32?
    let level ← r.required "level" Json.int32?
    return .potion { name, duration, level }
  | "variable" =>
    let r ← content.record? ["name", "scope"]
    let name ← r.required "name" Json.string?
    let scope ← r.required "scope" Scope.ofJson?
    return .variable { name, scope }
  | "game_value" =>
    let r ← content.record? ["kind", "target"]
    let kind ← r.required "kind" Json.string?
    let target ← r.required "target" Selector.ofJson?
    return .gameValue { kind, target }
  | "particle" => return .particle (← Particle.ofJson? content)
  | "tag" =>
    let r ← content.record? ["action", "tag", "option", "block"]
    let action ← r.required "action" Json.string?
    let tag ← r.required "tag" Json.string?
    let option ← r.required "option" Json.string?
    let block ← r.required "block" Json.string?
    return .tag { action, tag, option, block }
  | "item" =>
    let r ← content.record? ["payload"]
    return .item (← r.required "payload" Json.string?)
  | _ => none

end Value

end Plotline
