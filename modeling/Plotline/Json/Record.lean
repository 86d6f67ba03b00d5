import Plotline.Json.Basic

/-!
# Reading values out of documents

How records, choices and plain values are laid out in documents.

* A record is an object with named members, or a list of its members in their order. Members that
  it does not have are ignored in an object and refused in a list.
* A choice is its name, or an object whose only member has the choice's name and holds what
  belongs to it.
-/

namespace Plotline.Json

open Numeral

/-! ## Plain values -/

def bool? : Json → Option Bool
  | .bool b => some b
  | _ => none

def string? : Json → Option String
  | .str s => some s
  | _ => none

/-- A whole number within bounds, both included. -/
def intWithin? (low high : Int) : Json → Option Int
  | .int n => if low ≤ n ∧ n ≤ high then some n else none
  | _ => none

def uint16? (j : Json) : Option UInt16 :=
  (intWithin? 0 (Int.pow 2 16 - 1) j).map fun n => n.toNat.toUInt16

def uint32? (j : Json) : Option UInt32 :=
  (intWithin? 0 (Int.pow 2 32 - 1) j).map fun n => n.toNat.toUInt32

/-- A natural number of at most 64 bits. -/
def nat64? (j : Json) : Option Nat := (intWithin? 0 (Int.pow 2 64 - 1) j).map Int.toNat

def int32? (j : Json) : Option Int32 :=
  (intWithin? (-Int.pow 2 31) (Int.pow 2 31 - 1) j).map Int32.ofInt

/-- Any number, as a floating point number. -/
def double? : Json → Option Double
  | .int n => some (.ofInt n)
  | .float x => some x
  | _ => none

/-- Any number, as a short floating point number; whole numbers are rounded once. -/
def single? : Json → Option Single
  | .int n => some (.ofInt n)
  | .float x => some x.convert
  | _ => none

/-- A list whose items `read` accepts. -/
def list? {α : Type} (read : Json → Option α) : Json → Option (List α)
  | .arr items => items.mapM read
  | _ => none

/-- What `read` accepts, or nothing. -/
def nullable? {α : Type} (read : Json → Option α) : Json → Option (Option α)
  | .null => some none
  | j => (read j).map some

/-! ## Records -/

/-- The members of a record. In a record with named members, optional ones may be absent. -/
structure Record where
  members : List (String × Json)
  named : Bool

/-- A record with the given members, in this order when it is written as a list. -/
def record? (names : List String) : Json → Option Record
  | .obj members => some ⟨members, true⟩
  | .arr items => if items.length ≤ names.length then some ⟨names.zip items, false⟩ else none
  | _ => none

/-- A record that may only be written as an object. -/
def object? : Json → Option Record
  | .obj members => some ⟨members, true⟩
  | _ => none

namespace Record

variable {α : Type}

def get? (r : Record) (name : String) : Option Json := member? r.members name

/-- A member that has to be present. -/
def required (r : Record) (name : String) (read : Json → Option α) : Option α :=
  (r.get? name).bind read

/-- A member that may be absent or nothing; in a list it has to be present. -/
def optional (r : Record) (name : String) (read : Json → Option α) : Option (Option α) :=
  match r.get? name with
  | some j => nullable? read j
  | none => if r.named then some none else none

/-- A member that has a value when it is absent. -/
def orElse (r : Record) (name : String) (read : Json → Option α) (absent : α) : Option α :=
  match r.get? name with
  | some j => read j
  | none => some absent

end Record

/-! ## Choices -/

/-- The name of a choice, and what belongs to it. -/
def choice? : Json → Option (String × Option Json)
  | .str name => some (name, none)
  | .obj [(name, content)] => some (name, some content)
  | _ => none

/-- A choice that nothing belongs to, out of those in a table. -/
def name? {α : Type} (table : List (String × α)) (j : Json) : Option α :=
  match choice? j with
  | some (name, none) | some (name, some .null) =>
    (table.find? fun entry => entry.1 = name).map Prod.snd
  | _ => none

end Plotline.Json
