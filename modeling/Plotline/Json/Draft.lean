import Plotline.Json.Reader
import Plotline.Json.Record

/-!
# Records read from drafts

Records whose text is read at once: a member may be written only once, and members that the record
does not have are skipped, whatever they hold. All keys of a record have to spell texts; those
inside members that are skipped need not.
-/

namespace Plotline.Json.Draft

/-- The value of a draft that is no group. -/
def leaf? : Draft → Option Json
  | .plain j => some j
  | .number n => n
  | .string units => (Token.text? units).map .str
  | .list _ | .object _ => none

/-- A choice that nothing belongs to, out of those in a table. -/
def name? {α : Type} (table : List (String × α)) (d : Draft) : Option α :=
  let lookup (name : String) := (table.find? fun entry => entry.1 = name).map Prod.snd
  match d with
  | .string units => (Token.text? units).bind lookup
  | .object [(units, .plain .null)] => (Token.text? units).bind lookup
  | _ => none

structure Record where
  members : List (String × Draft)
  named : Bool

/-- The members of an object under the texts of their keys. -/
def namedMembers? (members : List (List Nat × Draft)) : Option (List (String × Draft)) :=
  members.mapM fun (units, d) => (Token.text? units).map fun name => (name, d)

/-- A record with the given members, in this order when it is written as a list. -/
def record? (names : List String) : Draft → Option Record
  | .object members => do
    let known := (← namedMembers? members).filter fun m => m.1 ∈ names
    if (known.map Prod.fst).Nodup then some ⟨known, true⟩ else none
  | .list items => if items.length ≤ names.length then some ⟨names.zip items, false⟩ else none
  | _ => none

namespace Record

variable {α : Type}

def get? (r : Record) (name : String) : Option Draft :=
  (r.members.find? fun m => m.1 = name).map Prod.snd

/-- A plain member that has to be present. -/
def required (r : Record) (name : String) (read : Json → Option α) : Option α := do
  read (← (← r.get? name).leaf?)

/-- A plain member that may be absent or nothing; in a list it has to be present. -/
def optional (r : Record) (name : String) (read : Json → Option α) : Option (Option α) :=
  match r.get? name with
  | some d => d.leaf?.bind (nullable? read)
  | none => if r.named then some none else none

/-- A member that has a value when it is absent. -/
def orElse (r : Record) (name : String) (read : Draft → Option α) (absent : α) : Option α :=
  match r.get? name with
  | some d => read d
  | none => some absent

end Record

end Plotline.Json.Draft
