import Plotline.Value.Basic
import Plotline.Json.Record
import Plotline.Numeral.Layout

/-!
# Wire records of values

A value travels as a record of its kind (`id`) and its `data`. `Value.toRecord` writes the record
and `Value.ofRecord` reads it. Settings of a particle that are left open are not in its record.
-/

namespace Plotline

open Numeral

/-- Why a record describes no value. -/
inductive RecordError
  | malformed
  | unknownId (id : String)
  | missingField (id field : String)
  | invalidField (id field : String)
deriving DecidableEq, Repr

def RecordError.message : RecordError → String
  | .malformed => "record is not an object with `id` and `data`"
  | .unknownId id => "unknown value id `" ++ id ++ "`"
  | .missingField id field => "`" ++ id ++ "` record is missing field `" ++ field ++ "`"
  | .invalidField id field => "`" ++ id ++ "` record has an invalid `" ++ field ++ "`"

/-! ## Writing -/

/-- The long number that the digits of a short one's plain text spell. -/
def Numeral.Binary.respelled (x : Single) : Double :=
  if x.magnitude = 0 then ⟨x.negative, 0⟩
  else ⟨x.negative, (Decimal.shortest .single .up x.magnitude).magnitude .double⟩

/-- A short number in a document: the digits of its plain text; nothing when it is not finite. -/
def shortNumber (x : Single) : Json :=
  if x.isFinite then .float x.respelled else .null

namespace Particle

/-- The settings of the particle that are not left open. -/
def recordSettings (p : Particle) : List (String × Json) :=
  let int (n : Int32) : Json := .int n.toInt
  let settings : List (String × Option Json) := [
    ("colorVariation", p.colorVariation.map int),
    ("material", p.material.map Json.str),
    ("motionVariation", p.motionVariation.map int),
    ("rgb", p.color.map int),
    ("roll", p.roll.map shortNumber),
    ("size", p.size.map shortNumber),
    ("sizeVariation", p.sizeVariation.map int),
    ("x", p.motionX.map shortNumber),
    ("y", p.motionY.map shortNumber),
    ("z", p.motionZ.map shortNumber)]
  settings.filterMap fun s => s.2.map fun j => (s.1, j)

def recordData (p : Particle) : List (String × Json) :=
  [("cluster", .obj [("amount", .int p.amount.toInt), ("horizontal", shortNumber p.spreadX),
      ("vertical", shortNumber p.spreadY)]),
    ("data", .obj p.recordSettings),
    ("particle", .str p.name)]

end Particle

namespace Value

/-- The kind of the record, and its data. -/
def recordParts : Value → String × List (String × Json)
  | .text s => ("txt", [("name", .str s)])
  | .number x => ("num", [("name", .str x.plain)])
  | .location l =>
    ("loc", [("isBlock", .bool false),
      ("loc", .obj [("pitch", shortNumber l.pitch), ("x", shortNumber l.x),
        ("y", shortNumber l.y), ("yaw", shortNumber l.yaw), ("z", shortNumber l.z)])])
  | .vector v =>
    ("vec", [("x", shortNumber v.x), ("y", shortNumber v.y), ("z", shortNumber v.z)])
  | .sound s =>
    ("snd", [("pitch", shortNumber s.pitch), ("sound", .str s.name),
      ("vol", shortNumber s.volume)])
  | .potion p =>
    ("pot", [("amp", .int p.level.toInt), ("dur", .int p.duration.toInt), ("pot", .str p.name)])
  | .variable v => ("var", [("name", .str v.name), ("scope", .str v.scope.wireName)])
  | .gameValue g => ("g_val", [("target", .str g.target.name), ("type", .str g.kind)])
  | .particle p => ("part", p.recordData)
  | .tag t =>
    ("bl_tag", [("action", .str t.action), ("block", .str t.block), ("option", .str t.option),
      ("tag", .str t.tag)])
  | .item payload => ("item", [("item", .str payload)])

/-- The wire record of a value. -/
def toRecord (v : Value) : Json :=
  .obj [("data", .obj v.recordParts.2), ("id", .str v.recordParts.1)]

end Value

/-! ## Reading -/

/-- The data of a record of kind `id`. -/
structure RecordData where
  id : String
  members : List (String × Json)

namespace RecordData

variable {α : Type}

/-- A field that `read` has to accept. -/
def field (d : RecordData) (name : String) (read : Json → Option α) : Except RecordError α :=
  match Json.member? d.members name with
  | none => .error (.missingField d.id name)
  | some j =>
    match read j with
    | some a => .ok a
    | none => .error (.invalidField d.id name)

/-- A field that may be absent. -/
def field? (d : RecordData) (name : String) (read : Json → Option α) :
    Except RecordError (Option α) :=
  match Json.member? d.members name with
  | none => .ok none
  | some _ => (d.field name read).map some

def string (d : RecordData) (name : String) : Except RecordError String := d.field name Json.string?

/-- A number; whole numbers count as long ones first. -/
def single? (j : Json) : Option Single := j.double?.map Binary.convert

def number (d : RecordData) (name : String) : Except RecordError Single := d.field name single?

def int (d : RecordData) (name : String) : Except RecordError Int32 := d.field name Json.int32?

/-- A field that holds data of its own; anything else counts as missing. -/
def inner (d : RecordData) (name : String) : Except RecordError RecordData :=
  match Json.member? d.members name with
  | some (.obj members) => .ok ⟨d.id, members⟩
  | _ => .error (.missingField d.id name)

end RecordData

/-- A particle out of the data of its record. -/
def Particle.ofRecord (d : RecordData) : Except RecordError Particle := do
  let cluster ← d.inner "cluster"
  let settings ← d.inner "data"
  let name ← d.string "particle"
  let amount ← cluster.int "amount"
  let spreadX ← cluster.number "horizontal"
  let spreadY ← cluster.number "vertical"
  let motionX ← settings.field? "x" RecordData.single?
  let motionY ← settings.field? "y" RecordData.single?
  let motionZ ← settings.field? "z" RecordData.single?
  let size ← settings.field? "size" RecordData.single?
  let roll ← settings.field? "roll" RecordData.single?
  let sizeVariation ← settings.field? "sizeVariation" Json.int32?
  let colorVariation ← settings.field? "colorVariation" Json.int32?
  let motionVariation ← settings.field? "motionVariation" Json.int32?
  let material ← settings.field? "material" Json.string?
  let color ← settings.field? "rgb" Json.int32?
  return {
    name, amount, spreadX, spreadY, motionX, motionY, motionZ, size, roll, sizeVariation,
    colorVariation, motionVariation, material, color }

namespace Value

/-- The value of a record of a known kind. -/
def ofRecordData (d : RecordData) : Except RecordError Value :=
  match d.id with
  | "txt" => return .text (← d.string "name")
  | "num" => return .number (← d.field "name" fun j => j.string?.bind (Decimal.read? .single))
  | "loc" => do
    let l ← d.inner "loc"
    let x ← l.number "x"
    let y ← l.number "y"
    let z ← l.number "z"
    let pitch ← l.number "pitch"
    let yaw ← l.number "yaw"
    return .location { x, y, z, pitch, yaw }
  | "vec" => do
    let x ← d.number "x"
    let y ← d.number "y"
    let z ← d.number "z"
    return .vector { x, y, z }
  | "snd" => do
    let name ← d.string "sound"
    let pitch ← d.number "pitch"
    let volume ← d.number "vol"
    return .sound { name, pitch, volume }
  | "pot" => do
    let name ← d.string "pot"
    let duration ← d.int "dur"
    let level ← d.int "amp"
    return .potion { name, duration, level }
  | "var" => do
    let scope ← d.field "scope" fun j => j.string?.bind Scope.ofWireName?
    let name ← d.string "name"
    return .variable { name, scope }
  | "g_val" => do
    let target ← d.field "target" fun j => j.string?.bind Selector.ofName?
    let kind ← d.string "type"
    return .gameValue { kind, target }
  | "part" => return .particle (← Particle.ofRecord d)
  | "bl_tag" => do
    let action ← d.string "action"
    let tag ← d.string "tag"
    let option ← d.string "option"
    let block ← d.string "block"
    return .tag { action, tag, option, block }
  | "item" => return .item (← d.string "item")
  | id => .error (.unknownId id)

/-- The value that a wire record describes. -/
def ofRecord (record : Json) : Except RecordError Value :=
  match record.get? "id", record.get? "data" with
  | some (.str id), some (.obj members) => ofRecordData ⟨id, members⟩
  | _, _ => .error .malformed

end Value

end Plotline
