import Plotline.Proofs.General
import Plotline.Proofs.Json.Records
import Plotline.Proofs.Json.RoundTrip
import Plotline.Script.Document

/-!
# Scripts read back from their documents

A script is written as a document, which is printed on one line. The text is read back as the same
script (`script_read_back`), when all numbers in the script are finite and the document is not nested
too deep.

* Every reader undoes its writer on sorted documents. Readers of nested parts have fuel, and what is
  inside of a document is lower than the document, so that the fuel lasts (`Script.readsBack`).
* The document of a script with finite numbers has only numbers that are read back
  (`Script.printable`).
-/

namespace Plotline

open Json Numeral

/-! ## Plain parts -/

theorem Json.uint32?_toNat (n : UInt32) : uint32? (.int n.toNat) = some n := by
  have hlt := n.toNat_lt
  have hwithin : intWithin? 0 (Int.pow 2 32 - 1) (.int n.toNat) = some (n.toNat : Int) := by
    rw [intWithin?, if_pos]
    exact ⟨Int.natCast_nonneg _, by simp [Int.pow]; omega⟩
  rw [uint32?, hwithin, Option.map_some, Int.toNat_natCast]
  simp

@[simp]
theorem Span.ofJson?_toJson (s : Span) : Span.ofJson? s.toJson.sorted = some s := by
  simp [Span.ofJson?, Span.toJson, member?_cons, uint32?_toNat]

theorem Scope.ofJson?_label (s : Scope) : Scope.ofJson? (.str s.label) = some s := by
  cases s <;> rfl

namespace Script

@[simp]
theorem Ident.ofJson?_toJson (i : Ident) : Ident.ofJson? i.toJson.sorted = some i := by
  simp [Ident.ofJson?, Ident.toJson, spanOf, member?_cons, string?]

theorem Ident.toJson_ne_null (i : Ident) : i.toJson.sorted ≠ .null := by
  simp [Ident.toJson, sorted]

@[simp]
theorem nullable?_ident (target : Option Ident) :
    nullable? Ident.ofJson? (documentOption Ident.toJson target).sorted = some target :=
  nullable?_sorted Ident.toJson_ne_null (by simp)

@[simp]
theorem VarRef.ofJson?_toJson (v : VarRef) : VarRef.ofJson? v.toJson.sorted = some v := by
  have hscope : nullable? Scope.ofJson?
      (documentOption (fun s : Scope => Json.str s.label) v.scope).sorted = some v.scope :=
    nullable?_sorted (by simp) (by simp [Scope.ofJson?_label])
  simp [VarRef.ofJson?, VarRef.toJson, member?_cons, hscope]

@[simp]
theorem SettingValue.ofJson?_toJson (v : SettingValue) :
    SettingValue.ofJson? v.toJson.sorted = some v := by
  cases v <;> simp [SettingValue.ofJson?, SettingValue.toJson, double?, string?]

@[simp]
theorem Setting.ofJson?_toJson (s : Setting) : Setting.ofJson? s.toJson.sorted = some s := by
  simp [Setting.ofJson?, Setting.toJson, member?_cons]

theorem Constant.ofContent?_toJson (c : Constant) :
    ∃ name content, c.toJson = .obj [(name, content)] ∧
      Constant.ofContent? name content.sorted = some c := by
  cases c with
  | text s => exact ⟨_, _, rfl, by simp [ofContent?, string?]⟩
  | number x => exact ⟨_, _, rfl, by simp [ofContent?, double?]⟩
  | location x y z pitch yaw =>
    exact ⟨_, _, rfl, by simp [ofContent?, member?_cons, double?]⟩
  | vector x y z => exact ⟨_, _, rfl, by simp [ofContent?, member?_cons, double?]⟩
  | sound name pitch volume =>
    exact ⟨_, _, rfl, by simp [ofContent?, member?_cons, double?, string?]⟩
  | potion name duration level =>
    exact ⟨_, _, rfl, by simp [ofContent?, member?_cons, double?, string?]⟩
  | particle name settings =>
    have hsettings : list? Setting.ofJson? (Json.arr (settings.map Setting.toJson)).sorted =
        some settings := list?_sorted (by simp)
    exact ⟨_, _, rfl, by simp [ofContent?, member?_cons, string?, hsettings]⟩
  | item payload => exact ⟨_, _, rfl, by simp [ofContent?, string?]⟩

@[simp]
theorem TagChoice.ofJson?_toJson (t : TagChoice) : TagChoice.ofJson? t.toJson.sorted = some t := by
  simp [TagChoice.ofJson?, TagChoice.toJson, spanOf, member?_cons, string?]

/-! ## Alternatives -/

/-- An alternative is found under its name, when no name is used twice. -/
theorem name?_nameIn {α : Type} [DecidableEq α] (table : List (String × α)) (a : α)
    (hnames : (table.map Prod.fst).Nodup) (ha : a ∈ table.map Prod.snd) :
    name? table (nameIn table a).sorted = some a := by
  obtain ⟨e, he, rfl⟩ := List.mem_map.mp ha
  cases hfind : table.find? (fun x => x.2 = e.2) with
  | none => exact absurd (List.find?_eq_none.mp hfind e he) (by simp)
  | some x =>
    have hx : x.2 = e.2 := by simpa using List.find?_some hfind
    have hback := find?_of_mem hnames (List.mem_of_find?_eq_some hfind)
    simp [nameIn, hfind, name?, choice?, hback, hx]

/-! ## Expressions -/

theorem Expr.ofJsonWithin?_toJson (fuel : Nat) : ∀ e : Expr, e.toJson.sorted.height ≤ fuel →
    Expr.ofJsonWithin? fuel e.toJson.sorted = some e := by
  induction fuel with
  | zero =>
    intro e h
    have hpos := height_pos e.toJson.sorted
    omega
  | succ fuel ih =>
    intro e h
    cases e with
    | constant c span =>
      obtain ⟨name, content, hjson, hread⟩ := c.ofContent?_toJson
      -- no constant has the name of another kind of expression
      have hvar : name ≠ "var" := by
        rintro rfl
        cases hread
      have hgame : name ≠ "game_value" := by
        rintro rfl
        cases hread
      have hbinary : name ≠ "binary" := by
        rintro rfl
        cases hread
      simp [Expr.toJson, ofJsonWithin?, hjson, member?_cons, spanOf, hread]
    | «variable» v span => simp [Expr.toJson, ofJsonWithin?, member?_cons, spanOf]
    | gameValue name target span =>
      simp [Expr.toJson, ofJsonWithin?, member?_cons, spanOf]
    | binary op lhs rhs span =>
      have hop := name?_nameIn BinaryOp.table op (by decide) (by cases op <;> decide)
      have hheight : lhs.toJson.sorted.height ≤ fuel ∧ rhs.toJson.sorted.height ≤ fuel := by
        simp [Expr.toJson, height_sorted_obj, sortedMembers, heightMembers] at h
        omega
      have hlhs := ih lhs hheight.1
      have hrhs := ih rhs hheight.2
      simp [Expr.toJson, ofJsonWithin?, member?_cons, spanOf, hlhs, hrhs, hop]

@[simp]
theorem Expr.ofJson?_toJson (e : Expr) : Expr.ofJson? e.toJson.sorted = some e :=
  Expr.ofJsonWithin?_toJson _ e le_rfl

theorem Expr.toJson_ne_null (e : Expr) : e.toJson.sorted ≠ .null := by
  cases e <;> simp [Expr.toJson, sorted]

/-! ## Actions and conditions -/

@[simp]
theorem list?_exprs (es : List Expr) :
    list? Expr.ofJson? (Json.arr (es.map Expr.toJson)).sorted = some es := list?_sorted (by simp)

@[simp]
theorem list?_tags (ts : List TagChoice) :
    list? TagChoice.ofJson? (Json.arr (ts.map TagChoice.toJson)).sorted = some ts :=
  list?_sorted (by simp)

@[simp]
theorem nullable?_expr (value : Option Expr) :
    nullable? Expr.ofJson? (documentOption Expr.toJson value).sorted = some value :=
  nullable?_sorted Expr.toJson_ne_null (by simp)

@[simp]
theorem ActionCall.ofJson?_toJson (c : ActionCall) :
    ActionCall.ofJson? c.toJson.sorted = some c := by
  have hfamily := name?_nameIn Family.table c.family (by decide) (by cases c.family <;> decide)
  simp [ActionCall.ofJson?, ActionCall.toJson, member?_cons, spanOf, hfamily]

theorem Condition.ofJsonWithin?_toJson (fuel : Nat) : ∀ c : Condition,
    c.toJson.sorted.height ≤ fuel → Condition.ofJsonWithin? fuel c.toJson.sorted = some c := by
  induction fuel with
  | zero =>
    intro c h
    have hpos := height_pos c.toJson.sorted
    omega
  | succ fuel ih =>
    intro c h
    cases c with
    | compare op lhs rhs span =>
      have hop := name?_nameIn CompareOp.table op (by decide) (by cases op <;> decide)
      simp [Condition.toJson, ofJsonWithin?, member?_cons, spanOf, hop]
    | check call => simp [Condition.toJson, ofJsonWithin?]
    | not c =>
      have hheight : c.toJson.sorted.height ≤ fuel := by
        simpa [Condition.toJson, height_sorted_obj, sortedMembers, heightMembers] using h
      simp [Condition.toJson, ofJsonWithin?, ih c hheight]

@[simp]
theorem Condition.ofJson?_toJson (c : Condition) : Condition.ofJson? c.toJson.sorted = some c :=
  Condition.ofJsonWithin?_toJson _ c le_rfl

@[simp]
theorem LoopKind.ofJson?_toJson (k : LoopKind) : LoopKind.ofJson? k.toJson.sorted = some k := by
  cases k with
  | forever => simp [LoopKind.ofJson?, LoopKind.toJson, choice?]
  | times count => simp [LoopKind.ofJson?, LoopKind.toJson]
  | whilst c => simp [LoopKind.ofJson?, LoopKind.toJson]
  | forEach var list => simp [LoopKind.ofJson?, LoopKind.toJson, member?_cons]
  | range var first last => simp [LoopKind.ofJson?, LoopKind.toJson, member?_cons]

/-! ## Statements -/

theorem Statement.toJsonAll_eq_map (body : List Statement) :
    Statement.toJsonAll body = body.map Statement.toJson := by
  induction body with
  | nil => rfl
  | cons s body ih => rw [Statement.toJsonAll, List.map_cons, ih]

theorem block?_toJson {read : Json → Option Statement} {body : List Statement}
    (h : ∀ s ∈ body, read s.toJson.sorted = some s) (span : Span) :
    block? read (blockJson (Statement.toJsonAll body) span).sorted = some (body, span) := by
  have hbody := list?_sorted h
  simp [block?, blockJson, Statement.toJsonAll_eq_map, member?_cons, spanOf, hbody]

/-- A statement is lower than its block. -/
theorem height_lt_block {body : List Statement} {s : Statement} (h : s ∈ body) (span : Span) :
    s.toJson.sorted.height < (blockJson (Statement.toJsonAll body) span).sorted.height := by
  have hitem := height_lt_of_mem (List.mem_map_of_mem (f := Statement.toJson) h)
  rw [blockJson, Statement.toJsonAll_eq_map, height_sorted_obj (by simp)]
  simp only [sortedMembers, heightMembers]
  omega

/-- What is not too high is read back. -/
structure ReadsBack (fuel : Nat) : Prop where
  statement : ∀ s : Statement, s.toJson.sorted.height ≤ fuel →
    Statement.ofJsonWithin? fuel s.toJson.sorted = some s
  branch : ∀ b : Branch, b.toJson.sorted.height ≤ fuel →
    Branch.ofJsonWithin? fuel b.toJson.sorted = some b
  otherwise : ∀ o : Otherwise, o.toJson.sorted.height ≤ fuel →
    Otherwise.ofJsonWithin? fuel o.toJson.sorted = some o

namespace ReadsBack

variable {fuel : Nat}

theorem block (h : ReadsBack fuel) {body : List Statement} {span : Span}
    (hheight : (blockJson (Statement.toJsonAll body) span).sorted.height ≤ fuel) :
    block? (Statement.ofJsonWithin? fuel) (blockJson (Statement.toJsonAll body) span).sorted =
      some (body, span) := by
  refine block?_toJson (fun s hs => h.statement s ?_) span
  have hlt := height_lt_block hs span
  omega

theorem succ_statement (h : ReadsBack fuel) (s : Statement)
    (hheight : s.toJson.sorted.height ≤ fuel + 1) :
    Statement.ofJsonWithin? (fuel + 1) s.toJson.sorted = some s := by
  cases s with
  | action a => simp [Statement.toJson, Statement.ofJsonWithin?]
  | declare var value span =>
    simp [Statement.toJson, Statement.ofJsonWithin?, member?_cons, spanOf]
  | assign target op value span =>
    have hop := name?_nameIn AssignOp.table op (by decide) (by cases op <;> decide)
    simp [Statement.toJson, Statement.ofJsonWithin?, member?_cons, spanOf, hop]
  | branch b =>
    have hb : b.toJson.sorted.height ≤ fuel := by
      simpa [Statement.toJson, height_sorted_obj, sortedMembers, heightMembers] using hheight
    simp [Statement.toJson, Statement.ofJsonWithin?, h.branch b hb]
  | loop kind body bodySpan span =>
    have hbody : (blockJson (Statement.toJsonAll body) bodySpan).sorted.height ≤ fuel := by
      simp [Statement.toJson, height_sorted_obj, sortedMembers, heightMembers] at hheight
      omega
    simp [Statement.toJson, Statement.ofJsonWithin?, member?_cons, spanOf, h.block hbody]
  | call name args span =>
    simp [Statement.toJson, Statement.ofJsonWithin?, member?_cons, spanOf]
  | start name span => simp [Statement.toJson, Statement.ofJsonWithin?, member?_cons, spanOf]
  | wait duration tags span =>
    simp [Statement.toJson, Statement.ofJsonWithin?, member?_cons, spanOf]
  | leave span => simp [Statement.toJson, Statement.ofJsonWithin?]
  | stop span => simp [Statement.toJson, Statement.ofJsonWithin?]
  | skip span => simp [Statement.toJson, Statement.ofJsonWithin?]

theorem succ_branch (h : ReadsBack fuel) (b : Branch)
    (hheight : b.toJson.sorted.height ≤ fuel + 1) :
    Branch.ofJsonWithin? (fuel + 1) b.toJson.sorted = some b := by
  obtain ⟨condition, body, bodySpan, rest, span⟩ := b
  have hparts : (blockJson (Statement.toJsonAll body) bodySpan).sorted.height ≤ fuel ∧
      rest.toJson.sorted.height ≤ fuel := by
    simp [Branch.toJson, height_sorted_obj, sortedMembers, heightMembers] at hheight
    omega
  simp [Branch.toJson, Branch.ofJsonWithin?, member?_cons, spanOf, h.block hparts.1,
    h.otherwise rest hparts.2]

theorem succ_otherwise (h : ReadsBack fuel) (o : Otherwise)
    (hheight : o.toJson.sorted.height ≤ fuel + 1) :
    Otherwise.ofJsonWithin? (fuel + 1) o.toJson.sorted = some o := by
  cases o with
  | nothing => simp [Otherwise.toJson, Otherwise.ofJsonWithin?]
  | block body bodySpan =>
    have hbody : (blockJson (Statement.toJsonAll body) bodySpan).sorted.height ≤ fuel := by
      simpa [Otherwise.toJson, height_sorted_obj, sortedMembers, heightMembers] using hheight
    simp [Otherwise.toJson, Otherwise.ofJsonWithin?, sorted_single, choice?, h.block hbody]
  | branch b =>
    have hb : b.toJson.sorted.height ≤ fuel := by
      simpa [Otherwise.toJson, height_sorted_obj, sortedMembers, heightMembers] using hheight
    simp [Otherwise.toJson, Otherwise.ofJsonWithin?, sorted_single, choice?, h.branch b hb]

end ReadsBack

/-- The three readers call each other with less fuel, and on parts that are lower. -/
theorem readsBack (fuel : Nat) : ReadsBack fuel := by
  induction fuel with
  | zero =>
    have hnone : ∀ j : Json, ¬ j.height ≤ 0 := fun j => Nat.not_le.mpr j.height_pos
    exact ⟨fun _ h => absurd h (hnone _), fun _ h => absurd h (hnone _),
      fun _ h => absurd h (hnone _)⟩
  | succ fuel ih => exact ⟨ih.succ_statement, ih.succ_branch, ih.succ_otherwise⟩

@[simp]
theorem Statement.ofJson?_toJson (s : Statement) : Statement.ofJson? s.toJson.sorted = some s :=
  (readsBack _).statement s le_rfl

/-! ## Items and scripts -/

@[simp]
theorem block?_statements (body : List Statement) (span : Span) :
    block? Statement.ofJson? (blockJson (Statement.toJsonAll body) span).sorted =
      some (body, span) := block?_toJson (by simp) span

@[simp]
theorem Item.ofJson?_toJson (i : Item) : Item.ofJson? i.toJson.sorted = some i := by
  cases i with
  | event kind name body bodySpan span =>
    have hkind : EventKind.ofJson? (.str kind.label) = some kind := by cases kind <;> rfl
    simp [Item.toJson, Item.ofJson?, member?_cons, spanOf, hkind]
  | function name params body bodySpan span =>
    have hparams : list? Ident.ofJson? (Json.arr (params.map Ident.toJson)).sorted = some params :=
      list?_sorted (by simp)
    simp [Item.toJson, Item.ofJson?, member?_cons, spanOf, hparams]
  | process name body bodySpan span =>
    simp [Item.toJson, Item.ofJson?, member?_cons, spanOf]

/-- A script is read back from its sorted document. -/
theorem ofDocument_toJson (s : Script) : ofDocument s.toJson.sorted = .ok s := by
  have hitems : list? Item.ofJson? (Json.arr (s.items.map Item.toJson)).sorted = some s.items :=
    list?_sorted (by simp)
  have hscript : ofJson? s.toJson.sorted = some s := by
    simp [ofJson?, toJson, member?_cons, spanOf, hitems]
  have hnone : s.toJson.sorted.get? "syntax_error" = none := by
    simp [toJson, sorted, get?, member?_sorted, member?_cons, member?_nil]
  simp [ofDocument, hnone, hscript]

/-! ## Numbers -/

/-- The numbers of a setting. -/
def SettingValue.numbers : SettingValue → List Double
  | .number x => [x]
  | .text _ => []

/-- The numbers of a constant. -/
def Constant.numbers : Constant → List Double
  | .number x => [x]
  | .location x y z pitch yaw => [x, y, z, pitch, yaw]
  | .vector x y z => [x, y, z]
  | .sound _ pitch volume => [pitch, volume]
  | .potion _ duration level => [duration, level]
  | .particle _ settings => settings.flatMap fun s => s.value.numbers
  | .text _ | .item _ => []

def Expr.numbers : Expr → List Double
  | .constant c _ => c.numbers
  | .binary _ lhs rhs _ => lhs.numbers ++ rhs.numbers
  | .variable .. | .gameValue .. => []

def ActionCall.numbers (c : ActionCall) : List Double := c.args.flatMap Expr.numbers

def Condition.numbers : Condition → List Double
  | .compare _ lhs rhs _ => lhs.numbers ++ rhs.numbers
  | .check call => call.numbers
  | .not c => c.numbers

def LoopKind.numbers : LoopKind → List Double
  | .times count => count.numbers
  | .forever => []
  | .whilst c => c.numbers
  | .forEach _ list => list.numbers
  | .range _ first last => first.numbers ++ last.numbers

mutual

/-- The numbers of a statement and of the statements in it. -/
def Statement.numbers : Statement → List Double
  | .action a => a.numbers
  | .declare _ value _ => value.toList.flatMap Expr.numbers
  | .assign _ _ value _ => value.numbers
  | .branch b => b.numbers
  | .loop kind body _ _ => kind.numbers ++ Statement.numbersAll body
  | .call _ args _ => args.flatMap Expr.numbers
  | .wait duration _ _ => duration.toList.flatMap Expr.numbers
  | .start .. | .leave _ | .stop _ | .skip _ => []

def Branch.numbers : Branch → List Double
  | .mk condition body _ rest _ =>
    condition.numbers ++ Statement.numbersAll body ++ rest.numbers

def Otherwise.numbers : Otherwise → List Double
  | .nothing => []
  | .block body _ => Statement.numbersAll body
  | .branch b => b.numbers

def Statement.numbersAll : List Statement → List Double
  | [] => []
  | s :: rest => s.numbers ++ Statement.numbersAll rest

end

/-- All numbers of a script. -/
def numbers (s : Script) : List Double := s.items.flatMap fun i => Statement.numbersAll i.body

/-! ## Printable documents -/

section

variable {α : Type} {write : α → Json}

theorem printableItems_map {as : List α} (h : ∀ a ∈ as, (write a).Printable) :
    PrintableItems (as.map write) := by
  induction as with
  | nil => trivial
  | cons a as ih =>
    obtain ⟨ha, has⟩ := List.forall_mem_cons.mp h
    exact ⟨ha, ih has⟩

theorem printable_documentOption {o : Option α} (h : ∀ a ∈ o, (write a).Printable) :
    (documentOption write o).Printable := by
  cases o with
  | none => trivial
  | some a => exact h a rfl

end

theorem printable_span (s : Span) : s.toJson.Printable := by
  have hfits : ∀ n : UInt32, (Json.int n.toNat).Printable := by
    intro n
    have hlt := n.toNat_lt
    constructor <;> omega
  exact ⟨hfits _, hfits _, hfits _, hfits _, trivial⟩

theorem Ident.printable (i : Ident) : i.toJson.Printable :=
  ⟨trivial, printable_span i.span, trivial⟩

theorem VarRef.printable (v : VarRef) : v.toJson.Printable :=
  ⟨v.name.printable, printable_documentOption fun _ _ => trivial, trivial⟩

theorem TagChoice.printable (t : TagChoice) : t.toJson.Printable :=
  ⟨trivial, trivial, printable_span t.span, trivial⟩

theorem SettingValue.printable {v : SettingValue} (h : ∀ x ∈ v.numbers, x.isFinite = true) :
    v.toJson.Printable := by
  cases v with
  | number x => exact ⟨h x (List.mem_singleton_self x), trivial⟩
  | text s => exact ⟨trivial, trivial⟩

theorem Constant.printable {c : Constant} (h : ∀ x ∈ c.numbers, x.isFinite = true) :
    c.toJson.Printable := by
  cases c with
  | particle name settings =>
    refine ⟨⟨trivial, printableItems_map fun s hs => ?_, trivial⟩, trivial⟩
    refine ⟨s.name.printable, SettingValue.printable fun x hx => h x ?_, trivial⟩
    exact List.mem_flatMap.mpr ⟨s, hs, hx⟩
  | _ => simp_all [Constant.numbers, Constant.toJson, Printable, PrintableMembers]

theorem Expr.printable {e : Expr} (h : ∀ x ∈ e.numbers, x.isFinite = true) :
    e.toJson.Printable := by
  induction e with
  | constant c span => exact ⟨Constant.printable h, printable_span span, trivial⟩
  | «variable» v span => exact ⟨⟨v.printable, trivial⟩, printable_span span, trivial⟩
  | gameValue name target span =>
    refine ⟨⟨⟨name.printable, ?_, trivial⟩, trivial⟩, printable_span span, trivial⟩
    exact printable_documentOption fun i _ => i.printable
  | binary op lhs rhs span ihl ihr =>
    obtain ⟨hlhs, hrhs⟩ := List.forall_mem_append.mp h
    exact ⟨⟨⟨trivial, ihl hlhs, ihr hrhs, trivial⟩, trivial⟩, printable_span span, trivial⟩

theorem Expr.printableItems {es : List Expr}
    (h : ∀ x ∈ es.flatMap Expr.numbers, x.isFinite = true) :
    PrintableItems (es.map Expr.toJson) :=
  printableItems_map fun e he => Expr.printable fun x hx => h x (List.mem_flatMap.mpr ⟨e, he, hx⟩)

theorem Expr.printable_option {o : Option Expr}
    (h : ∀ x ∈ o.toList.flatMap Expr.numbers, x.isFinite = true) :
    (documentOption Expr.toJson o).Printable := by
  refine printable_documentOption fun e he => Expr.printable fun x hx => h x ?_
  exact List.mem_flatMap.mpr ⟨e, Option.mem_toList.mpr he, hx⟩

theorem ActionCall.printable {c : ActionCall} (h : ∀ x ∈ c.numbers, x.isFinite = true) :
    c.toJson.Printable :=
  ⟨trivial, c.name.printable, Expr.printableItems h, printableItems_map fun t _ => t.printable,
    printable_documentOption fun i _ => i.printable, printable_span c.span, trivial⟩

theorem Condition.printable {c : Condition} (h : ∀ x ∈ c.numbers, x.isFinite = true) :
    c.toJson.Printable := by
  induction c with
  | compare op lhs rhs span =>
    obtain ⟨hlhs, hrhs⟩ := List.forall_mem_append.mp h
    exact ⟨⟨trivial, Expr.printable hlhs, Expr.printable hrhs, printable_span span, trivial⟩,
      trivial⟩
  | check call => exact ⟨ActionCall.printable h, trivial⟩
  | not c ih => exact ⟨ih h, trivial⟩

theorem LoopKind.printable {k : LoopKind} (h : ∀ x ∈ k.numbers, x.isFinite = true) :
    k.toJson.Printable := by
  cases k with
  | times count => exact ⟨Expr.printable h, trivial⟩
  | forever => trivial
  | whilst c => exact ⟨Condition.printable h, trivial⟩
  | forEach var list => exact ⟨⟨var.printable, Expr.printable h, trivial⟩, trivial⟩
  | range var first last =>
    obtain ⟨hfirst, hlast⟩ := List.forall_mem_append.mp h
    exact ⟨⟨var.printable, Expr.printable hfirst, Expr.printable hlast, trivial⟩, trivial⟩

mutual

theorem Statement.printable {s : Statement} (h : ∀ x ∈ s.numbers, x.isFinite = true) :
    s.toJson.Printable := by
  cases s with
  | action a => exact ⟨ActionCall.printable h, trivial⟩
  | declare var value span =>
    exact ⟨⟨var.printable, Expr.printable_option h, printable_span span, trivial⟩, trivial⟩
  | assign target op value span =>
    exact ⟨⟨target.printable, trivial, Expr.printable h, printable_span span, trivial⟩, trivial⟩
  | branch b => exact ⟨Branch.printable h, trivial⟩
  | loop kind body bodySpan span =>
    obtain ⟨hkind, hbody⟩ := List.forall_mem_append.mp h
    exact ⟨⟨LoopKind.printable hkind,
      ⟨Statement.printableItems hbody, printable_span bodySpan, trivial⟩, printable_span span,
      trivial⟩, trivial⟩
  | call name args span =>
    exact ⟨⟨name.printable, Expr.printableItems h, printable_span span, trivial⟩, trivial⟩
  | start name span => exact ⟨⟨name.printable, printable_span span, trivial⟩, trivial⟩
  | wait duration tags span =>
    exact ⟨⟨Expr.printable_option h, printableItems_map fun t _ => t.printable,
      printable_span span, trivial⟩, trivial⟩
  | leave span | stop span | skip span => exact ⟨printable_span span, trivial⟩

theorem Branch.printable {b : Branch} (h : ∀ x ∈ b.numbers, x.isFinite = true) :
    b.toJson.Printable := by
  cases b with
  | mk condition body bodySpan rest span =>
    obtain ⟨hfront, hrest⟩ := List.forall_mem_append.mp h
    obtain ⟨hcondition, hbody⟩ := List.forall_mem_append.mp hfront
    exact ⟨Condition.printable hcondition,
      ⟨Statement.printableItems hbody, printable_span bodySpan, trivial⟩,
      Otherwise.printable hrest, printable_span span, trivial⟩

theorem Otherwise.printable {o : Otherwise} (h : ∀ x ∈ o.numbers, x.isFinite = true) :
    o.toJson.Printable := by
  cases o with
  | nothing => trivial
  | block body bodySpan =>
    exact ⟨⟨Statement.printableItems h, printable_span bodySpan, trivial⟩, trivial⟩
  | branch b => exact ⟨Branch.printable h, trivial⟩

theorem Statement.printableItems {body : List Statement}
    (h : ∀ x ∈ Statement.numbersAll body, x.isFinite = true) :
    PrintableItems (Statement.toJsonAll body) := by
  cases body with
  | nil => trivial
  | cons s rest =>
    obtain ⟨hs, hrest⟩ := List.forall_mem_append.mp h
    exact ⟨Statement.printable hs, Statement.printableItems hrest⟩

end

theorem Item.printable {i : Item} (h : ∀ x ∈ Statement.numbersAll i.body, x.isFinite = true) :
    i.toJson.Printable := by
  cases i with
  | event kind name body bodySpan span =>
    exact ⟨⟨trivial, name.printable,
      ⟨Statement.printableItems h, printable_span bodySpan, trivial⟩, printable_span span,
      trivial⟩, trivial⟩
  | function name params body bodySpan span =>
    exact ⟨⟨name.printable, printableItems_map fun p _ => p.printable,
      ⟨Statement.printableItems h, printable_span bodySpan, trivial⟩, printable_span span,
      trivial⟩, trivial⟩
  | process name body bodySpan span =>
    exact ⟨⟨name.printable, ⟨Statement.printableItems h, printable_span bodySpan, trivial⟩,
      printable_span span, trivial⟩, trivial⟩

/-- The document of a script with finite numbers can be read back. -/
theorem printable {s : Script} (h : ∀ x ∈ s.numbers, x.isFinite = true) : s.toJson.Printable := by
  refine ⟨printableItems_map fun i hi => Item.printable fun x hx => h x ?_, printable_span s.span,
    trivial⟩
  exact List.mem_flatMap.mpr ⟨i, hi, hx⟩

end Script

/-! ## Reading back -/

/-- The text of a script's document is read back as the script, when all numbers in the script are
finite and at most 127 groups of the document are nested in each other. -/
theorem script_read_back {s : Script} (hfinite : ∀ x ∈ s.numbers, x.isFinite = true)
    (hnesting : s.toJson.nesting ≤ 127) : Script.ofText s.toJson.compact = .ok s := by
  rw [Script.ofText, read?_compact (Script.printable hfinite) hnesting]
  exact Script.ofDocument_toJson s

namespace Sample

open Script

/-- A span on one line. -/
def onLine (line : UInt32) : Span := ⟨line, 1, line, 40⟩

def spotted (name : String) : Ident := ⟨name, onLine 7⟩

/-- A tenth. -/
def tenth : Double := ⟨false, 0x3FB999999999999A⟩

/-- Constants of every kind. Among the numbers are the least and the largest finite one and zero
with a sign. -/
def constants : List Constant :=
  [.text "say \"hi\"\n\u0001", .number tenth, .location ⟨false, 1⟩ ⟨true, 0⟩ .largest tenth tenth,
    .vector ⟨true, 0x7FE0000000000000⟩ ⟨false, 0x4340000000000000⟩ .zero, .sound "Pling" tenth .zero,
    .potion "Speed" ⟨false, 0x4059000000000000⟩ .zero,
    .particle "Dust" [⟨spotted "size", .number tenth⟩, ⟨spotted "color", .text "#FF8800"⟩],
    .item "\\"]

/-- Expressions of every kind. -/
def expressions : List Expr :=
  constants.map (fun c => .constant c (onLine 2)) ++
    [.variable ⟨spotted "x", some .saved⟩ (onLine 3), .gameValue (spotted "Health") none (onLine 3),
      .binary .mod (.gameValue (spotted "X") (some (spotted "victim")) (onLine 4))
        (.variable ⟨spotted "y", none⟩ (onLine 4)) (onLine 4)]

def asking : ActionCall where
  family := .entity
  name := spotted "IsNear"
  args := expressions
  tags := [⟨"Shape", "Sphere", onLine 5⟩]
  target := some (spotted "victim")
  span := onLine 5

/-- Conditions of every kind. -/
def unlike (e : Expr) : Condition := .not (.compare .greaterEq e e (onLine 6))

/-- Loops of every kind. -/
def kinds (e : Expr) : List LoopKind :=
  [.times e, .forever, .whilst (.check asking), .forEach ⟨spotted "each", none⟩ e,
    .range ⟨spotted "i", some .line⟩ e e]

/-- A script with statements of every kind. -/
def tour : Script where
  items := [
    .event .entity (spotted "Death")
      (expressions.flatMap fun e => .assign ⟨spotted "x", none⟩ .sub e (onLine 8) ::
        (kinds e).map fun k => .loop k [.stop (onLine 9), .skip (onLine 9)] (onLine 9) (onLine 10))
      (onLine 8) (onLine 11),
    .function (spotted "f") [spotted "a", spotted "b"] [
      .action asking, .declare ⟨spotted "x", some .game⟩ none (onLine 12),
      .call (spotted "f") expressions (onLine 13), .start (spotted "p") (onLine 14),
      .wait none [⟨"Time Unit", "Ticks", onLine 15⟩] (onLine 15)] (onLine 12) (onLine 16),
    .process (spotted "p") (expressions.map fun e =>
      .branch (.mk (unlike e) [.wait (some e) [] (onLine 17)] (onLine 17)
        (.branch (.mk (.check asking) [] (onLine 18) (.block [.leave (onLine 19)] (onLine 19))
          (onLine 18))) (onLine 17))) (onLine 17) (onLine 20)]
  span := onLine 1

end Sample

theorem script_read_back_tour :
    (∀ x ∈ Sample.tour.numbers, x.isFinite = true) ∧ Sample.tour.toJson.nesting ≤ 127 ∧
      Script.ofText Sample.tour.toJson.compact = .ok Sample.tour :=
  have hfinite : ∀ x ∈ Sample.tour.numbers, x.isFinite = true := by decide +kernel
  have hnesting : Sample.tour.toJson.nesting ≤ 127 := by decide +kernel
  ⟨hfinite, hnesting, script_read_back hfinite hnesting⟩

end Plotline
