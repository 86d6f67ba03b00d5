import Plotline.Delivery.Session
import Plotline.Proofs.General
import Plotline.Proofs.Json.Records
import Plotline.Proofs.Json.RoundTrip

/-!
# Lines of a session, as a client reads them

A client that reads the lines of a session finds in every one of them the message that was sent:
`Message.ofText?` looks up the members by their names, and `Message.ofText?_text` says that it gives
back the message of a line. The numbers of the templates among some lines are `Message.numbers`.

Numbers have 64 bits and begin again behind the last one; `consecutive` are numbers in a row.
-/

namespace Plotline

namespace Message

/-! ## Reading a line -/

/-- The message that a document spells. -/
def ofJson? (j : Json) : Option Message := do
  let r ← j.object?
  match ← r.required "type" Json.string? with
  | "template" =>
    let sequence ← r.required "seq" Json.nat64?
    let index ← r.required "index" Json.nat64?
    let source ← r.required "source" Json.string?
    let data ← r.required "data" Json.object?
    let version ← data.required "version" Json.nat64?
    let name ← data.required "name" Json.string?
    let code ← data.required "code" Json.string?
    if source = "kindling" ∧ version = wireVersion then
      some (.template (.ofNat sequence) index { name, code })
    else none
  | "finish" => return .finish (← r.required "count" Json.nat64?)
  | _ => none

/-- The message that a line spells. -/
def ofText? (line : String) : Option Message := (Json.read? line).bind ofJson?

/-- The number of a template. -/
def sequence? : Message → Option UInt64
  | .template sequence _ _ => some sequence
  | .finish _ => none

/-- The index or the count of the message has at most 64 bits. -/
def Fits : Message → Prop
  | .template _ index _ => index < 2 ^ 64
  | .finish count => count < 2 ^ 64

theorem printable_nat {n : Nat} (h : n < 2 ^ 64) : (Json.int n).Printable := by
  constructor <;> omega

theorem printable_toJson {m : Message} (h : m.Fits) : m.toJson.Printable := by
  cases m with
  | template sequence index code =>
    exact ⟨⟨trivial, trivial, printable_nat (by decide), trivial⟩, printable_nat h,
      printable_nat sequence.toNat_lt, trivial, trivial, trivial⟩
  | finish count => exact ⟨printable_nat h, trivial, trivial⟩

theorem nat64?_int {n : Nat} (h : n < 2 ^ 64) : Json.nat64? (.int n) = some n := by
  have hbounds : (0 : Int) ≤ n ∧ (n : Int) ≤ Int.pow 2 64 - 1 := by
    have hpow : Int.pow 2 64 = 2 ^ 64 := rfl
    omega
  rw [Json.nat64?, Json.intWithin?, if_pos hbounds]
  rfl

theorem ofJson?_sorted {m : Message} (h : m.Fits) : ofJson? m.toJson.sorted = some m := by
  cases m with
  | template sequence index code =>
    have hversion : Json.nat64? (.int wireVersion) = some wireVersion := nat64?_int (by decide)
    simp [toJson, ofJson?, Json.member?_cons, Json.string?, nat64?_int h,
      nat64?_int sequence.toNat_lt, hversion]
  | finish count =>
    simp [toJson, ofJson?, Json.member?_cons, Json.string?, nat64?_int h]

/-- A message is read from its line. -/
theorem ofText?_text {m : Message} (h : m.Fits) : ofText? m.text = some m := by
  have hnesting : m.toJson.nesting ≤ Json.nestingLimit := by
    cases m <;>
      simp [toJson, Json.nesting, Json.nestingMembers, Json.nestingLimit]
  rw [ofText?, text, Json.read?_compact (printable_toJson h) hnesting]
  exact ofJson?_sorted h

/-! ## Numbers in lines

That a line tells its number does not need the index or the count to fit. -/

/-- What stands behind the number in the line of a template. -/
def templateEnd : List Char := ",\"source\":\"kindling\",\"type\":\"template\"\x7d".toList

theorem toList_text_template (sequence : UInt64) (index : Nat) (code : TemplateCode) :
    ∃ front, (template sequence index code).text.toList =
      front ++ ':' :: (toString sequence.toNat).toList ++ templateEnd := by
  have htext : (template sequence index code).text =
      "\x7b" ++ ((Json.printedString "data" ++ ":" ++
          (Json.obj [("code", .str code.code), ("name", .str code.name),
            ("version", .int wireVersion)]).compact) ++ "," ++
        (Json.printedString "index" ++ ":" ++ toString index) ++ "," ++
        (Json.printedString "seq" ++ ":" ++ toString sequence.toNat) ++ "," ++
        (Json.printedString "source" ++ ":" ++ Json.printedString "kindling") ++ "," ++
        (Json.printedString "type" ++ ":" ++ Json.printedString "template")) ++ "\x7d" := rfl
  have hend : templateEnd = ",".toList ++ ((Json.printedString "source" ++ ":" ++
      Json.printedString "kindling") ++ "," ++
        (Json.printedString "type" ++ ":" ++ Json.printedString "template")).toList ++
          "\x7d".toList := by decide
  rw [htext, hend]
  refine ⟨("\x7b" ++ (Json.printedString "data" ++ ":" ++
      (Json.obj [("code", .str code.code), ("name", .str code.name),
        ("version", .int wireVersion)]).compact) ++ "," ++
      (Json.printedString "index" ++ ":" ++ toString index) ++ "," ++
        Json.printedString "seq").toList, ?_⟩
  simp only [String.toList_append, List.append_assoc]
  rfl

/-- The line of a template tells its number. -/
theorem sequence_eq_of_text_eq {sequence sequence' : UInt64} {index index' : Nat}
    {code code' : TemplateCode}
    (h : (template sequence index code).text = (template sequence' index' code').text) :
    sequence = sequence' := by
  obtain ⟨front, hfront⟩ := toList_text_template sequence index code
  obtain ⟨front', hfront'⟩ := toList_text_template sequence' index' code'
  have hlist := congrArg String.toList h
  rw [hfront, hfront', List.append_left_inj] at hlist
  obtain ⟨-, hdigits⟩ :=
    append_cons_inj (notMem_toString rfl sequence.toNat) (notMem_toString rfl sequence'.toNat) hlist
  exact UInt64.toNat_inj.mp (eq_of_toString hdigits)

/-- The end of a batch is no template. -/
theorem text_template_ne_finish (sequence : UInt64) (index count : Nat) (code : TemplateCode) :
    (template sequence index code).text ≠ (finish count).text := by
  intro h
  obtain ⟨front, hfront⟩ := toList_text_template sequence index code
  have htext : (finish count).text =
      "\x7b" ++ ((Json.printedString "count" ++ ":" ++ toString count) ++ "," ++
        (Json.printedString "type" ++ ":" ++ Json.printedString "finish")) ++ "\x7d" := rfl
  have htemplate : templateEnd = templateEnd.take 36 ++ ['e', '"', '\x7d'] := by decide
  have hfinish : (Json.printedString "finish").toList ++ "\x7d".toList =
      "\"finis".toList ++ ['h', '"', '\x7d'] := by decide
  have hlist := congrArg String.toList h
  rw [hfront, htext, htemplate] at hlist
  simp only [String.toList_append, List.append_assoc, hfinish] at hlist
  simp only [← List.append_assoc] at hlist
  exact absurd (List.append_inj_right' hlist rfl) (by decide)

/-- A client reads the messages back from their lines. -/
theorem map_ofText?_map_text {messages : List Message} (h : ∀ m ∈ messages, m.Fits) :
    (messages.map text).map ofText? = messages.map some := by
  rw [List.map_map]
  exact List.map_congr_left fun m hm => ofText?_text (h m hm)

/-- The numbers of the templates among some lines. -/
def numbers (lines : List String) : List UInt64 :=
  lines.filterMap fun line => (ofText? line).bind sequence?

theorem numbers_map_text {messages : List Message} (h : ∀ m ∈ messages, m.Fits) :
    numbers (messages.map text) = messages.filterMap sequence? := by
  rw [numbers, List.filterMap_map]
  refine List.filterMap_congr fun m hm => ?_
  rw [Function.comp_apply, ofText?_text (h m hm), Option.bind_some]

end Message

/-! ## Numbers in a row -/

/-- Numbers in a row, from the given one on. -/
def consecutive (start : UInt64) (count : Nat) : List UInt64 :=
  (List.range count).map fun i => start + .ofNat i

theorem add_ofNat_zero (start : UInt64) : start + .ofNat 0 = start := UInt64.add_zero start

theorem add_ofNat_add (start : UInt64) (i j : Nat) :
    start + .ofNat (i + j) = start + .ofNat i + .ofNat j := by
  rw [UInt64.ofNat_add, UInt64.add_assoc]

theorem add_ofNat_succ (start : UInt64) (i : Nat) :
    start + .ofNat (i + 1) = start + .ofNat i + 1 := add_ofNat_add start i 1

@[simp] theorem length_consecutive (start : UInt64) (count : Nat) :
    (consecutive start count).length = count := by
  simp [consecutive]

theorem consecutive_succ (start : UInt64) (count : Nat) :
    consecutive start (count + 1) = consecutive start count ++ [start + .ofNat count] := by
  simp [consecutive, List.range_succ]

theorem consecutive_append (start : UInt64) (k k' : Nat) :
    consecutive start k ++ consecutive (start + .ofNat k) k' = consecutive start (k + k') := by
  simp only [consecutive, List.range_add, List.map_append, List.map_map, Function.comp_def,
    add_ofNat_add]

theorem getElem?_consecutive {start q : UInt64} {count i : Nat}
    (h : (consecutive start count)[i]? = some q) : q = start + .ofNat i := by
  rw [consecutive, List.getElem?_map] at h
  obtain ⟨j, hj, rfl⟩ := Option.map_eq_some_iff.mp h
  obtain ⟨hi, rfl⟩ := List.getElem?_eq_some_iff.mp hj
  rw [List.getElem_range]

/-- As long as all numbers fit, each of them is one more than the one before it. -/
theorem map_toNat_consecutive {start : UInt64} {count : Nat}
    (h : start.toNat + count ≤ 2 ^ 64) :
    (consecutive start count).map UInt64.toNat = List.range' start.toNat count := by
  rw [consecutive, List.map_map, List.range'_eq_map_range]
  refine List.map_congr_left fun i hi => ?_
  have hi := List.mem_range.mp hi
  rw [Function.comp_apply, UInt64.toNat_add, UInt64.toNat_ofNat',
    Nat.mod_eq_of_lt (by omega : i < _), Nat.mod_eq_of_lt (by omega)]

end Plotline
