import Plotline.Proofs.Fitting.Names
import Plotline.Proofs.Lowering.Finite

/-!
# Lowered code conforms to the catalog

The blocks of a lowered program that have an entry in the catalog are its actions and the heads of
its branches and loops. `Script.Item.blocks` says which entries a script asks for, in the order of
the program and with those that have no counterpart in the text, such as the guard of a loop.
`Conforms` says what it means that a block is the one asked for and fills its entry: plain
arguments that the parameters accept, then one value for every tag of the entry.

`Emits` holds all that is known of lowered code, part by part. It is shown of expressions,
conditions and heads of loops first, then of bodies by induction (`Statement.Lowers.emits`).
-/

namespace Plotline

open Instruction Script

/-! ## Blocks with an entry -/

/-- A block with an entry in the catalog: an action, or the head of a bracket. -/
inductive CatalogBlock
  | action (a : Action)
  | head (h : Head)

namespace CatalogBlock

def args : CatalogBlock → List Value
  | .action a => a.args
  | .head h => h.args

/-- The block has the entry with the given category and name. A loop that checks its condition
itself has the entry of the condition. -/
def Has (block : BlockKind) (name : String) : CatalogBlock → Prop
  | .action a => a.block = block ∧ a.name = name
  | .head (.branch c) => c.block = block ∧ c.name = name
  | .head (.loop l) =>
    block = .loop ∧ l.name = name ∧ l.subAction = none ∨
      block ∈ [.ifPlayer, .ifEntity, .ifGame, .ifVar] ∧ l.name = "While" ∧ l.subAction = some name

end CatalogBlock

mutual

/-- The blocks of an instruction and of all that is nested in it, in the order in which they are
placed. -/
def Instruction.blocks : Instruction → List CatalogBlock
  | .action a => [.action a]
  | .call _ => []
  | .bracket head setup body none => blocksAll setup ++ .head head :: blocksAll body
  | .bracket head setup body (some rest) =>
    blocksAll setup ++ .head head :: (blocksAll body ++ blocksAll rest)

def Instruction.blocksAll : List Instruction → List CatalogBlock
  | [] => []
  | i :: is => i.blocks ++ blocksAll is

end

/-- There are assignments to variables and nothing else. -/
def OnlyAssigns (is : List Instruction) : Prop :=
  ∀ i ∈ is, ∃ a : Action, i = .action a ∧ a.block = .setVar

mutual

/-- Every setup consists of assignments, and no loop has an else body. -/
def Instruction.Regular : Instruction → Prop
  | .action _ | .call _ => True
  | .bracket _ setup body none => OnlyAssigns setup ∧ RegularAll body
  | .bracket head setup body (some rest) =>
    OnlyAssigns setup ∧ RegularAll body ∧ head.isLoop = false ∧ RegularAll rest

def Instruction.RegularAll : List Instruction → Prop
  | [] => True
  | i :: is => i.Regular ∧ RegularAll is

end

/-! ## Filling an entry -/

/-- The option of a tag is the one that is chosen last, or the standard one when none is. -/
def Script.Use.Chooses (u : Use) (spec : TagSpec) (option : String) : Prop :=
  (∃ before choice after, u.choices = before ++ choice :: after ∧ choice.name = spec.name ∧
      choice.option = option ∧ ∀ t ∈ after, t.name ≠ spec.name) ∨
    (∀ t ∈ u.choices, t.name ≠ spec.name) ∧ option = spec.standard

/-- The value is the one of a tag of the block. -/
def Script.Use.IsTag (u : Use) (spec : TagSpec) (v : Value) : Prop :=
  ∃ option ∈ spec.options, u.Chooses spec option ∧
    v = .tag ⟨u.name, spec.name, option, u.block.id⟩

/-- Plain arguments and tags fill the entry of the catalog. -/
structure Script.Use.Fills (u : Use) (s : Signature) (plain tags : List Value) : Prop where
  kinds : plain.map Value.kind = u.kinds
  untagged : ∀ v ∈ plain, v.isTag = false
  enough : s.minArgs ≤ plain.length
  notTooMany : ∀ high, s.maxArgs? = some high → plain.length ≤ high
  accepted : ∀ i v, plain[i]? = some v → ∃ p, s.paramFor? i = some p ∧ p.kind.accepts v = true
  options : List.Forall₂ u.IsTag s.tags tags
  room : (plain ++ tags).length ≤ chestSlots

/-- The arguments are those of the block: plain ones first, then tags. -/
def Script.Use.FilledBy (u : Use) (args : List Value) : Prop :=
  ∃ s plain tags, Catalog.signature? u.block u.name = some s ∧ args = plain ++ tags ∧
    u.Fills s plain tags

/-- The block is the one that is asked for. -/
def Conforms (u : Use) (x : CatalogBlock) : Prop := x.Has u.block u.name ∧ u.FilledBy x.args

/-! ## What a script asks for -/

namespace Script

/-- The operations of an expression, those of the operands before the one that joins them. -/
def Expr.blocks : Expr → List Use
  | .binary op lhs rhs _ =>
    lhs.blocks ++ rhs.blocks ++ [⟨.setVar, op.action, [.variable, lhs.kind, rhs.kind], []⟩]
  | _ => []

def Condition.blocks (c : Condition) : List Use := c.exprs.flatMap Expr.blocks ++ c.use?.toList

/-- A condition that a loop can check itself: nothing has to be computed for it, and it has no
target. -/
def Condition.isDirect (c : Condition) : Bool :=
  (c.exprs.flatMap Expr.blocks).isEmpty && (c.call?.bind ActionCall.target).isNone

/-- A block without arguments. -/
def Use.bare (block : BlockKind) (name : String) : Use := ⟨block, name, [], []⟩

/-- The blocks before the body of a loop. A condition that is not direct becomes a guard in a loop
that runs forever. -/
def LoopKind.blocks : LoopKind → List Use
  | .whilst c =>
    if c.isDirect then c.use?.toList
    else .bare .loop "Forever" :: (c.blocks ++ [.bare .control "StopRepeat"])
  | kind => kind.exprs.flatMap Expr.blocks ++ kind.use?.toList

mutual

/-- The blocks of a statement, of an event or of something else. -/
def Statement.blocks (inEvent : Bool) : Statement → List Use
  | .branch b => b.blocks inEvent
  | .loop kind body _ _ => kind.blocks ++ Statement.blocksAll inEvent body
  | .leave _ => [.bare .control (if inEvent then "End" else "Return")]
  | .stop _ => [.bare .control "StopRepeat"]
  | .skip _ => [.bare .control "Skip"]
  | s => s.exprs.flatMap Expr.blocks ++ s.use?.toList

def Branch.blocks (inEvent : Bool) : Branch → List Use
  | .mk c body _ rest _ => c.blocks ++ (Statement.blocksAll inEvent body ++ rest.blocks inEvent)

def Otherwise.blocks (inEvent : Bool) : Otherwise → List Use
  | .nothing => []
  | .block body _ => Statement.blocksAll inEvent body
  | .branch b => b.blocks inEvent

def Statement.blocksAll (inEvent : Bool) : List Statement → List Use
  | [] => []
  | s :: rest => s.blocks inEvent ++ Statement.blocksAll inEvent rest

end

def Item.blocks (item : Item) : List Use := Statement.blocksAll item.isEvent item.body

end Script

/-! ## Filling an entry by `completeArgs` -/

/-- No entry has two tags of one name, nor so many that no slot is left. -/
theorem Catalog.tags_of_signature? {block : BlockKind} {name : String} {s : Signature}
    (h : signature? block name = some s) :
    (s.tags.map TagSpec.name).Nodup ∧ s.tags.length ≤ chestSlots := by
  have hentries : ∀ e ∈ entries block,
      (e.2.tags.map TagSpec.name).Nodup ∧ e.2.tags.length ≤ chestSlots := by
    cases block <;> decide
  obtain ⟨e, he, rfl⟩ := Option.map_eq_some_iff.mp h
  exact hentries e (List.mem_of_find?_eq_some he)

/-- Every argument that may be there stands for a parameter. -/
theorem Signature.exists_paramFor? {s : Signature} {count i : Nat}
    (h : ∀ high, s.maxArgs? = some high → count ≤ high) (hi : i < count) :
    ∃ p, s.paramFor? i = some p := by
  rw [paramFor?]
  split
  · exact ⟨_, rfl⟩
  · rename_i hnone
    have hlength : s.params.length ≤ i := List.getElem?_eq_none_iff.mp hnone
    rw [maxArgs?] at h
    split at h
    · rename_i p hlast
      split at h
      · rename_i hplural
        exact ⟨p, by rw [hlast, Option.filter_some, if_pos hplural]⟩
      · have := h _ rfl
        omega
    · have := h _ rfl
      omega

section

variable {u : Use} {s : Signature}

theorem chooses_chosenOption (spec : TagSpec) :
    u.Chooses spec (chosenOption u.choices spec) := by
  rw [chosenOption]
  split
  · rename_i t ht
    obtain ⟨hname, after, before, hsplit, hafter⟩ := List.find?_eq_some_iff_append.mp ht
    refine Or.inl ⟨before.reverse, t, after.reverse, ?_, of_decide_eq_true hname, rfl, ?_⟩
    · rw [← List.reverse_reverse u.choices, hsplit]
      simp
    · intro t' ht'
      simpa using hafter t' (List.mem_reverse.mp ht')
  · rename_i hnone
    refine Or.inr ⟨fun t ht => ?_, rfl⟩
    simpa using List.find?_eq_none.mp hnone t (List.mem_reverse.mpr ht)

/-- What is chosen last for a tag is among its options, since all choices are and no other tag has
its name. -/
theorem option_mem_of_chooses {spec : TagSpec} (hspec : spec ∈ s.tags)
    (hnodup : (s.tags.map TagSpec.name).Nodup)
    (hoptions : ∀ t ∈ u.choices, ∃ spec, s.tag? t.name = some spec ∧ t.option ∈ spec.options)
    {option : String} (h : u.Chooses spec option) : option ∈ spec.options := by
  rcases h with ⟨before, t, after, hsplit, hname, rfl, -⟩ | ⟨-, rfl⟩
  · obtain ⟨spec', hspec', hmem⟩ := hoptions t (by rw [hsplit]; simp)
    have hname' : spec'.name = t.name := by simpa using List.find?_some hspec'
    have heq : spec' = spec := List.inj_on_of_nodup_map hnodup
      (List.mem_of_find?_eq_some hspec') hspec (hname'.trans hname)
    rwa [← heq]
  · exact List.mem_cons_self

theorem filledBy_of_completeArgs {args args' : List Value} {span : Span}
    (hkinds : args.map Value.kind = u.kinds)
    (h : completeArgs u.block u.name args u.choices span = .ok args') : u.FilledBy args' := by
  obtain ⟨s, hs, hadmits, rfl⟩ := completeArgs_eq_ok h
  obtain ⟨hnodup, hfew⟩ := Catalog.tags_of_signature? hs
  have haccepted : ∀ i v, args[i]? = some v →
      ∃ p, s.paramFor? i = some p ∧ p.kind.accepts v = true := by
    intro i v hv
    have hi : i < (args.map Value.kind).length := by
      rw [List.length_map]
      exact (List.getElem?_eq_some_iff.mp hv).1
    obtain ⟨p, hp⟩ := Signature.exists_paramFor? hadmits.notTooMany hi
    refine ⟨p, hp, ArgKind.accepts_iff.mpr (hadmits.accepted i v.kind ?_ p hp)⟩
    rw [List.getElem?_map, hv]
    rfl
  refine ⟨s, args, _, hs, rfl, hkinds, ?_, ?_, ?_, haccepted, ?_, ?_⟩
  · intro v hv
    obtain ⟨i, hi⟩ := List.mem_iff_getElem?.mp hv
    obtain ⟨p, -, hp⟩ := haccepted i v hi
    cases v <;> first | rfl | cases hp
  · simpa using hadmits.enough
  · simpa using hadmits.notTooMany
  · rw [tagValues, List.forall₂_map_right_iff, List.forall₂_same]
    intro spec hspec
    have hchooses := chooses_chosenOption (u := u) spec
    exact ⟨_, option_mem_of_chooses hspec hnodup hadmits.options hchooses, hchooses, rfl⟩
  · have hroom := hadmits.room
    rw [List.length_map] at hroom
    rw [List.length_append, tagValues, List.length_map]
    omega

theorem finite_of_completeArgs {block : BlockKind} {name : String} {args args' : List Value}
    {choices : List TagChoice} {span : Span} (hargs : ∀ v ∈ args, v.Finite)
    (h : completeArgs block name args choices span = .ok args') : ∀ v ∈ args', v.Finite := by
  obtain ⟨s, -, -, rfl⟩ := completeArgs_eq_ok h
  rw [List.forall_mem_append]
  refine ⟨hargs, ?_⟩
  simp [tagValues, Value.Finite, Value.singles]

end

/-! ## What is known of lowered code -/

/-- The call has as many arguments as its function has parameters; processes have none. -/
def Call.Agrees (d : Definitions) (c : Call) : Prop :=
  match c.kind with
  | .function => d.arity? c.name = some c.args.length
  | .process => c.args = []

/-- The instructions are those that `us` asks for, in order. -/
structure Emits (d : Definitions) (us : List Use) (is : List Instruction) : Prop where
  conforms : List.Forall₂ Conforms us (blocksAll is)
  calls : ∀ c ∈ callsAll is, c.Agrees d
  regular : RegularAll is
  finite : ∀ v ∈ valuesAll is, v.Finite

theorem Instruction.blocksAll_append (is js : List Instruction) :
    blocksAll (is ++ js) = blocksAll is ++ blocksAll js := by
  induction is with
  | nil => simp [blocksAll]
  | cons i is ih => simp only [List.cons_append, blocksAll, ih, List.append_assoc]

theorem Instruction.regularAll_append {is js : List Instruction} :
    RegularAll (is ++ js) ↔ RegularAll is ∧ RegularAll js := by
  induction is with
  | nil => simp [RegularAll]
  | cons i is ih => simp only [List.cons_append, RegularAll, ih, and_assoc]

theorem Instruction.valuesAll_append (is js : List Instruction) :
    valuesAll (is ++ js) = valuesAll is ++ valuesAll js := by
  induction is with
  | nil => simp [valuesAll]
  | cons i is ih => simp only [List.cons_append, valuesAll, ih, List.append_assoc]

section

variable {d : Definitions} {us vs ws : List Use} {u : Use}

theorem emits_nil : Emits d [] [] where
  conforms := by
    rw [blocksAll]
    exact .nil
  calls := by simp [callsAll]
  regular := by simp [RegularAll]
  finite := by simp [valuesAll]

theorem Emits.append {is js : List Instruction} (h : Emits d us is) (h' : Emits d vs js) :
    Emits d (us ++ vs) (is ++ js) where
  conforms := by
    rw [blocksAll_append]
    exact List.rel_append h.conforms h'.conforms
  calls := by
    rw [callsAll_append, List.forall_mem_append]
    exact ⟨h.calls, h'.calls⟩
  regular := regularAll_append.mpr ⟨h.regular, h'.regular⟩
  finite := by
    rw [valuesAll_append, List.forall_mem_append]
    exact ⟨h.finite, h'.finite⟩

theorem emits_action {a : Action} (h : Conforms u (.action a)) (hfinite : ∀ v ∈ a.args, v.Finite) :
    Emits d [u] [.action a] where
  conforms := by
    rw [blocksAll, blocksAll, blocks]
    exact .cons h .nil
  calls := by simp [callsAll, Instruction.calls]
  regular := by simp [RegularAll, Regular]
  finite := by simpa [valuesAll, values] using hfinite

theorem emits_call {c : Call} (h : c.Agrees d) (hfinite : ∀ v ∈ c.args, v.Finite) :
    Emits d [] [.call c] where
  conforms := by
    rw [blocksAll, blocksAll, blocks]
    exact .nil
  calls := by simpa [callsAll, Instruction.calls] using h
  regular := by simp [RegularAll, Regular]
  finite := by simpa [valuesAll, values] using hfinite

section

variable {head : Head} {setup body rest : List Instruction}

theorem emits_bracket (hsetup : Emits d us setup) (honly : OnlyAssigns setup)
    (hhead : Conforms u (.head head)) (hfinite : ∀ v ∈ head.args, v.Finite)
    (hbody : Emits d vs body) : Emits d (us ++ u :: vs) [.bracket head setup body none] where
  conforms := by
    rw [blocksAll, blocksAll, blocks, List.append_nil]
    exact List.rel_append hsetup.conforms (.cons hhead hbody.conforms)
  calls := by
    have hcalls := List.forall_mem_append.mpr ⟨hsetup.calls, hbody.calls⟩
    simpa [callsAll, Instruction.calls] using hcalls
  regular := by
    rw [RegularAll, RegularAll, Regular]
    exact ⟨⟨honly, hbody.regular⟩, trivial⟩
  finite := by
    have hvalues := List.forall_mem_append.mpr
      ⟨List.forall_mem_append.mpr ⟨hfinite, hsetup.finite⟩, hbody.finite⟩
    simpa [valuesAll, values] using hvalues

theorem emits_bracket_else (hsetup : Emits d us setup) (honly : OnlyAssigns setup)
    (hhead : Conforms u (.head head)) (hfinite : ∀ v ∈ head.args, v.Finite)
    (hbranch : head.isLoop = false) (hbody : Emits d vs body) (hrest : Emits d ws rest) :
    Emits d (us ++ u :: (vs ++ ws)) [.bracket head setup body (some rest)] where
  conforms := by
    rw [blocksAll, blocksAll, blocks, List.append_nil]
    exact List.rel_append hsetup.conforms
      (.cons hhead (List.rel_append hbody.conforms hrest.conforms))
  calls := by
    have hcalls := List.forall_mem_append.mpr
      ⟨List.forall_mem_append.mpr ⟨hsetup.calls, hbody.calls⟩, hrest.calls⟩
    simpa [callsAll, Instruction.calls] using hcalls
  regular := by
    rw [RegularAll, RegularAll, Regular]
    exact ⟨⟨honly, hbody.regular, hbranch, hrest.regular⟩, trivial⟩
  finite := by
    have hvalues := List.forall_mem_append.mpr ⟨List.forall_mem_append.mpr
      ⟨List.forall_mem_append.mpr ⟨hfinite, hsetup.finite⟩, hbody.finite⟩, hrest.finite⟩
    simpa [valuesAll, values] using hvalues

end

theorem emits_plainAction {args : List Value} {span : Span} {i : Instruction}
    (hkinds : args.map Value.kind = u.kinds) (hfinite : ∀ v ∈ args, v.Finite)
    (h : plainAction u.block u.name args u.choices span = .ok i) : Emits d [u] [i] := by
  obtain ⟨args', hargs, rfl⟩ := plainAction_eq_ok h
  exact emits_action ⟨⟨rfl, rfl⟩, filledBy_of_completeArgs hkinds hargs⟩
    (finite_of_completeArgs hfinite hargs)

theorem emits_bare {name : String} {span : Span} {i : Instruction}
    (h : controlAction name [] [] span = .ok i) : Emits d [.bare .control name] [i] :=
  emits_plainAction (u := .bare .control name) rfl (by simp) h

end

/-! ## Expressions and conditions -/

theorem onlyAssigns_nil : OnlyAssigns [] := by
  simp [OnlyAssigns]

theorem OnlyAssigns.append {is js : List Instruction} (h : OnlyAssigns is) (h' : OnlyAssigns js) :
    OnlyAssigns (is ++ js) := List.forall_mem_append.mpr ⟨h, h'⟩

theorem onlyAssigns_setVariable {name : String} {args : List Value} {span : Span}
    {i : Instruction} (h : setVariable name args span = .ok i) : OnlyAssigns [i] := by
  obtain ⟨args', -, rfl⟩ := plainAction_eq_ok h
  intro j hj
  obtain rfl := List.mem_singleton.mp hj
  exact ⟨_, rfl, rfl⟩

theorem Value.finite_var (name : String) (scope : Scope) : (Value.var name scope).Finite := by
  simp [Finite, singles, var]

namespace Script

section

variable {d : Definitions} {b : Bindings}

theorem Expr.onlyAssigns {e : Expr} {k : Nat} {r : Lowered Value} (h : e.lower b k = .ok r) :
    OnlyAssigns r.code := by
  induction e generalizing k r with
  | binary op lhs rhs span ihl ihr =>
    obtain ⟨x, y, i, hx, hy, hi, rfl⟩ := binary_of_lower h
    exact ((ihl hx).append (ihr hy)).append (onlyAssigns_setVariable hi)
  | _ =>
    rw [(leaf_of_lower rfl h).1]
    exact onlyAssigns_nil

theorem Expr.emits {e : Expr} {k : Nat} {r : Lowered Value} (h : e.lower b k = .ok r) :
    Emits d e.blocks r.code := by
  induction e generalizing k r with
  | binary op lhs rhs span ihl ihr =>
    obtain ⟨x, y, i, hx, hy, hi, rfl⟩ := binary_of_lower h
    refine ((ihl hx).append (ihr hy)).append (emits_plainAction ?_ ?_ hi)
    · rw [List.map_cons, List.map_cons, List.map_cons, kind_of_lower hx, kind_of_lower hy]
      rfl
    · simp only [List.forall_mem_cons]
      exact ⟨Value.finite_var _ _, finite_of_lower hx, finite_of_lower hy, by simp⟩
  | _ =>
    rw [(leaf_of_lower rfl h).1]
    exact emits_nil

theorem Expr.LowersAll.onlyAssigns {es : List Expr} {k : Nat} {r : Lowered (List Value)}
    (h : LowersAll b es k r) : OnlyAssigns r.code := by
  induction h with
  | nil => exact onlyAssigns_nil
  | cons hv _ ih => exact (Expr.onlyAssigns hv).append ih

theorem Expr.LowersAll.emits {es : List Expr} {k : Nat} {r : Lowered (List Value)}
    (h : LowersAll b es k r) : Emits d (es.flatMap blocks) r.code := by
  induction h with
  | nil => exact emits_nil
  | cons hv _ ih => exact (Expr.emits hv).append ih

theorem Condition.onlyAssigns {c : Condition} {k : Nat} {r : Lowered Check}
    (h : c.lower b k = .ok r) : OnlyAssigns r.code := by
  obtain ⟨u, vs, span, hparts⟩ := parts_of_lower h
  exact hparts.values.onlyAssigns

/-- What is known of the check of a condition. -/
structure Condition.Filled (d : Definitions) (c : Condition) (u : Use) (r : Lowered Check) :
    Prop where
  use : c.use? = some u
  isCheck : u.block ∈ [.ifPlayer, .ifEntity, .ifGame, .ifVar]
  code : Emits d (c.exprs.flatMap Expr.blocks) r.code
  block : r.result.block = u.block
  name : r.result.name = u.name
  target : r.result.target.isNone = (c.call?.bind ActionCall.target).isNone
  args : u.FilledBy r.result.args
  finite : ∀ v ∈ r.result.args, v.Finite

theorem Condition.filled {c : Condition} {k : Nat} {r : Lowered Check}
    (h : c.lower b k = .ok r) : ∃ u, c.Filled d u r := by
  obtain ⟨u, vs, span, hparts⟩ := parts_of_lower h
  have hkinds : vs.map Value.kind = u.kinds :=
    hparts.values.kinds.trans hparts.kinds.symm
  exact ⟨u, hparts.use, hparts.isCheck, hparts.values.emits, hparts.block,
    hparts.name, hparts.target, filledBy_of_completeArgs hkinds hparts.args,
    finite_of_completeArgs hparts.values.finite hparts.args⟩

theorem Condition.Filled.conforms {c : Condition} {u : Use} {r : Lowered Check}
    (h : c.Filled d u r) (inverted : Bool) :
    Conforms u (.head (.branch { r.result with inverted })) :=
  ⟨⟨h.block, h.name⟩, h.args⟩

theorem Condition.Filled.blocks {c : Condition} {u : Use} {r : Lowered Check}
    (h : c.Filled d u r) : c.blocks = c.exprs.flatMap Expr.blocks ++ [u] := by
  rw [Condition.blocks, h.use, Option.toList]

section

variable {c : Condition} {k : Nat} {r : Lowered Check} {us vs : List Use}
  {body rest : List Instruction}

theorem Condition.emits_branch (h : c.lower b k = .ok r) (hbody : Emits d us body) :
    Emits d (c.blocks ++ us) [.bracket (.branch r.result) r.code body none] := by
  obtain ⟨u, hu⟩ := Condition.filled (d := d) h
  rw [hu.blocks, List.append_assoc, List.singleton_append]
  exact emits_bracket hu.code (Condition.onlyAssigns h) (hu.conforms _) hu.finite hbody

theorem Condition.emits_branch_else (h : c.lower b k = .ok r) (hbody : Emits d us body)
    (hrest : Emits d vs rest) :
    Emits d (c.blocks ++ (us ++ vs)) [.bracket (.branch r.result) r.code body (some rest)] := by
  obtain ⟨u, hu⟩ := Condition.filled (d := d) h
  rw [hu.blocks, List.append_assoc, List.singleton_append]
  exact emits_bracket_else hu.code (Condition.onlyAssigns h) (hu.conforms _) hu.finite rfl hbody
    hrest

end

/-! ## Loops -/

theorem blocksAll_eq_nil_iff {is : List Instruction} (h : OnlyAssigns is) :
    blocksAll is = [] ↔ is = [] := by
  cases is with
  | nil => simp [blocksAll]
  | cons i is =>
    obtain ⟨⟨a, rfl, -⟩, -⟩ := List.forall_mem_cons.mp h
    simp [blocksAll, blocks]

/-- Which loops check their condition themselves can be seen from the condition. -/
theorem Condition.Filled.isDirect_iff {c : Condition} {u : Use} {r : Lowered Check}
    (h : c.Filled d u r) (hassigns : OnlyAssigns r.code) :
    c.isDirect = true ↔ r.code.isEmpty = true ∧ r.result.target.isNone = true := by
  have hlength := h.code.conforms.length_eq
  have hempty : c.exprs.flatMap Expr.blocks = [] ↔ r.code = [] := by
    rw [← blocksAll_eq_nil_iff hassigns, ← List.length_eq_zero_iff, hlength,
      List.length_eq_zero_iff]
  rw [isDirect, Bool.and_eq_true, List.isEmpty_iff, List.isEmpty_iff, hempty, h.target]

theorem Condition.emits_loop {c : Condition} {k : Nat} {r : Lowered Check} {us : List Use}
    {body : List Instruction} {span : Span} {i : Instruction} (hr : c.lower b k = .ok r)
    (hbody : Emits d us body) (h : conditionLoop r.code r.result body span = .ok i) :
    Emits d ((LoopKind.whilst c).blocks ++ us) [i] := by
  obtain ⟨u, hc⟩ := Condition.filled (d := d) hr
  have hassigns := Condition.onlyAssigns hr
  rw [conditionLoop] at h
  rw [LoopKind.blocks]
  split at h
  · rename_i hdirect
    cases h
    rw [if_pos ((hc.isDirect_iff hassigns).mpr hdirect), hc.use]
    have hhead : Conforms u
        (.head (.loop ⟨"While", r.result.args, some r.result.name, r.result.inverted⟩)) :=
      ⟨Or.inr ⟨hc.isCheck, rfl, congrArg some hc.name⟩, hc.args⟩
    exact emits_bracket emits_nil onlyAssigns_nil hhead hc.finite hbody
  · rename_i hdirect
    obtain ⟨stop, hstop, hrest⟩ := bind_eq_ok h
    obtain ⟨args, hargs, hret⟩ := bind_eq_ok hrest
    cases hret
    have hblocks : .bare .loop "Forever" :: (c.blocks ++ [.bare .control "StopRepeat"]) ++ us =
        .bare .loop "Forever" :: ((c.exprs.flatMap Expr.blocks ++
          u :: [.bare .control "StopRepeat"]) ++ us) := by
      simp [hc.blocks]
    rw [if_neg fun hd => hdirect ((hc.isDirect_iff hassigns).mp hd), hblocks]
    have hguard := emits_bracket hc.code hassigns (hc.conforms !r.result.inverted) hc.finite
      (emits_bare hstop)
    have hhead : Conforms (.bare .loop "Forever") (.head (.loop { name := "Forever", args })) :=
      ⟨Or.inl ⟨rfl, rfl, rfl⟩, filledBy_of_completeArgs rfl hargs⟩
    exact emits_bracket emits_nil onlyAssigns_nil hhead
      (finite_of_completeArgs (by simp) hargs) (hguard.append hbody)

section

variable {kind : LoopKind} {k : Nat} {r : Lowered (List Value)} {name : String}

theorem LoopKind.Parts.blocks (h : kind.Parts b k r name) :
    kind.blocks = kind.exprs.flatMap Expr.blocks ++
      [⟨.loop, name, (kind.targets ++ r.result).map Value.kind, []⟩] := by
  have huse := h.use
  rw [← map_kind_targets, ← h.values.kinds, ← List.map_append] at huse
  have hcondition := h.condition
  cases kind with
  | whilst c => cases hcondition
  | times | forever | forEach | range =>
    rw [LoopKind.blocks, huse, Option.toList]
    simp

theorem LoopKind.Parts.emits {us : List Use} {args : List Value} {span : Span}
    {body : List Instruction} (h : kind.Parts b k r name)
    (hargs : completeArgs .loop name (kind.targets ++ r.result) [] span = .ok args)
    (hbody : Emits d us body) :
    Emits d (kind.blocks ++ us) [.bracket (.loop { name, args }) r.code body none] := by
  have hhead : Conforms ⟨.loop, name, (kind.targets ++ r.result).map Value.kind, []⟩
      (.head (.loop { name, args })) :=
    ⟨Or.inl ⟨rfl, rfl, rfl⟩, filledBy_of_completeArgs rfl hargs⟩
  have hfinite : ∀ v ∈ kind.targets ++ r.result, v.Finite := by
    rw [List.forall_mem_append]
    exact ⟨by simp [targets, Value.finite_var], h.values.finite⟩
  rw [h.blocks, List.append_assoc, List.singleton_append]
  exact emits_bracket h.values.emits h.values.onlyAssigns hhead
    (finite_of_completeArgs hfinite hargs) hbody

end

end

/-! ## Statements -/

theorem emits_assignment {d : Definitions} {op : AssignOp} {target value : Value} {span : Span}
    {i : Instruction} (htarget : target.kind = .variable) (hfinite : value.Finite)
    (h : assignment op target value span = .ok i) : Emits d [op.use value.kind] [i] := by
  rw [assignment_eq op value.kind] at h
  refine emits_plainAction (op.kinds_args htarget value) (fun v hv => ?_) h
  rcases AssignOp.mem_args hv with rfl | rfl
  · cases v <;> simp [Value.kind] at htarget
    simp [Value.Finite, Value.singles]
  · exact hfinite

theorem Statement.Becomes.emits {x : Statement} {s : Surroundings} {c c' : Cursor}
    {code : List Instruction} (h : x.Becomes s c code c') :
    Emits s.definitions (x.blocks s.inEvent) code := by
  cases h with
  | @action a target r args _ hr hargs =>
    have hfilled : (a.use a.family.actionBlock).FilledBy args :=
      filledBy_of_completeArgs hr.kinds hargs
    exact hr.emits.append
      (emits_action ⟨⟨rfl, rfl⟩, hfilled⟩ (finite_of_completeArgs hr.finite hargs))
  | declare => exact emits_nil
  | define hr hi =>
    have hassign := emits_assignment (d := s.definitions) rfl (Expr.finite_of_lower hr) hi
    rw [Expr.kind_of_lower hr] at hassign
    simpa [Statement.blocks, Statement.exprs, Statement.use?] using (Expr.emits hr).append hassign
  | assign htarget hr hi =>
    have hassign := emits_assignment (d := s.definitions) (VarRef.kind_of_resolve htarget)
      (Expr.finite_of_lower hr) hi
    rw [Expr.kind_of_lower hr] at hassign
    simpa [Statement.blocks, Statement.exprs, Statement.use?] using (Expr.emits hr).append hassign
  | @call name args _ r harity hr =>
    have hlength : r.result.length = args.length := by
      simpa using congrArg List.length hr.kinds
    have hagrees : Call.Agrees s.definitions ⟨.function, name.name, r.result⟩ := by
      rw [Call.Agrees, harity, hlength]
    exact hr.emits.append (emits_call hagrees hr.finite)
  | start => exact emits_call rfl (by simp)
  | @wait tags _ _ hi =>
    exact emits_plainAction (u := ⟨.control, "Wait", [], tags⟩) rfl (by simp) hi
  | @waitFor e tags _ r i hr hi =>
    have hwait : Emits s.definitions [⟨.control, "Wait", [e.kind], tags⟩] [i] := by
      refine emits_plainAction ?_ ?_ hi
      · rw [List.map_singleton, Expr.kind_of_lower hr]
      · simpa using Expr.finite_of_lower hr
    simpa [Statement.blocks, Statement.exprs, Statement.use?] using (Expr.emits hr).append hwait
  | leave hi | stop _ hi | skip _ hi =>
    rw [Statement.blocks]
    exact emits_bare hi

theorem Otherwise.blocks_of_body? {o : Otherwise} {ys : List Statement} (h : o.body? = some ys)
    (inEvent : Bool) : o.blocks inEvent = Statement.blocksAll inEvent ys := by
  cases o with
  | nothing => cases h
  | block body span =>
    cases h
    rw [blocks]
  | branch b =>
    cases h
    rw [blocks, Statement.blocksAll, Statement.blocksAll, Statement.blocks, List.append_nil]

theorem Statement.Lowers.emits {s : Surroundings} {c : Cursor} {xs : List Statement}
    {code : List Instruction} {k : Nat} (h : Lowers s c xs code k) :
    Emits s.definitions (blocksAll s.inEvent xs) code := by
  induction h with
  | nil =>
    rw [blocksAll]
    exact emits_nil
  | simple hx _ ih =>
    rw [blocksAll]
    exact hx.emits.append ih
  | branch hr _ _ ihbody ih =>
    rw [blocksAll, Statement.blocks, Branch.blocks, Otherwise.blocks, List.append_nil]
    exact (Condition.emits_branch hr ihbody).append ih
  | branchElse hr _ hys _ _ ihbody ihother ih =>
    rw [blocksAll, Statement.blocks, Branch.blocks, Otherwise.blocks_of_body? hys]
    exact (Condition.emits_branch_else hr ihbody ihother).append ih
  | counted hparts hargs _ _ ihbody ih =>
    rw [blocksAll, Statement.blocks]
    exact (hparts.emits hargs ihbody).append ih
  | whilst hr _ hi _ ihbody ih =>
    rw [blocksAll, Statement.blocks]
    exact (Condition.emits_loop hr ihbody hi).append ih

theorem Item.emits {d : Definitions} {item : Item} {t : Template} (h : item.lower d = .ok t) :
    Emits d item.blocks t.body := by
  obtain ⟨k, hlowers⟩ := lowers_of_lower h
  exact hlowers.emits

end Script

/-- Every block of a lowered script is the one that the script asks for at its place and fills its
entry of the catalog. Setups consist of assignments, loops have no else body, and all numbers are
finite. -/
theorem conforms_of_lower {s : Script} {P : Program} (h : s.lower = .ok P) :
    List.Forall₂ (fun item unit => List.Forall₂ Conforms item.blocks (blocksAll unit.body))
        s.items P.units ∧
      ∀ unit ∈ P.units, RegularAll unit.body ∧ ∀ v ∈ unit.values, v.Finite := by
  obtain ⟨d, -, hunits⟩ := forall₂_of_lower h
  refine ⟨hunits.imp fun item unit hunit => (Item.emits hunit).conforms, ?_⟩
  intro unit hunit
  obtain ⟨item, -, hlower⟩ := exists_of_mem_right hunits hunit
  have hemits := Item.emits hlower
  exact ⟨hemits.regular, hemits.finite⟩

namespace Sample

def counter : Expr := .variable ⟨⟨"n", .unknown⟩, some .saved⟩ .unknown

def ask (name : String) : Condition := .check { family := .player, name := ⟨name, .unknown⟩ }

/-- Two loops on conditions: one has to compute an operand, the other checks its condition itself.
A tag is chosen twice. -/
def patrol : Script where
  items := [.event .player ⟨"Join", .unknown⟩ [
    .loop (.whilst (.compare .less (.binary .add counter counter .unknown) counter .unknown)) [
      .action {
        family := .player
        name := ⟨"SendMessage", .unknown⟩
        args := [counter, .constant (.number ⟨false, 0x4014000000000000⟩) .unknown]
        tags := [⟨"Alignment Mode", "Centered", .unknown⟩, ⟨"Alignment Mode", "Regular", .unknown⟩]
      }] .unknown .unknown,
    .branch (.mk (ask "IsSneaking")
      [.loop (.whilst (.not (ask "IsFlying"))) [.wait none [] .unknown] .unknown .unknown] .unknown
      (.block [.leave .unknown] .unknown) .unknown)] .unknown .unknown]

/-- What `patrol` asks for. -/
def patrolUses : List Use := [
  ⟨.loop, "Forever", [], []⟩,
  ⟨.setVar, "+", [.variable, .variable, .variable], []⟩,
  ⟨.ifVar, "<", [.variable, .variable], []⟩,
  ⟨.control, "StopRepeat", [], []⟩,
  ⟨.playerAction, "SendMessage", [.variable, .number],
    [⟨"Alignment Mode", "Centered", .unknown⟩, ⟨"Alignment Mode", "Regular", .unknown⟩]⟩,
  ⟨.ifPlayer, "IsSneaking", [], []⟩,
  ⟨.ifPlayer, "IsFlying", [], []⟩,
  ⟨.control, "Wait", [], []⟩,
  ⟨.control, "End", [], []⟩]

/-- What `patrol` becomes. -/
def patrolCode : List Instruction := [
  .bracket (.loop ⟨"Forever", [], none, false⟩) [] [
    .bracket (.branch ⟨.ifVar, "<", [temporary 0, .var "n" .saved], none, true⟩)
      [.action ⟨.setVar, "+", [temporary 0, .var "n" .saved, .var "n" .saved], none⟩]
      [.action ⟨.control, "StopRepeat", [], none⟩] none,
    .action ⟨.playerAction, "SendMessage",
      [.var "n" .saved, .number ⟨false, 0x40A00000⟩,
        .tag ⟨"SendMessage", "Alignment Mode", "Regular", "player_action"⟩,
        .tag ⟨"SendMessage", "Text Value Merging", "Add spaces", "player_action"⟩], none⟩] none,
  .bracket (.branch ⟨.ifPlayer, "IsSneaking", [], none, false⟩) []
    [.bracket (.loop ⟨"While", [], some "IsFlying", true⟩) []
      [.action ⟨.control, "Wait", [.tag ⟨"Wait", "Time Unit", "Ticks", "control"⟩], none⟩] none]
    (some [.action ⟨.control, "End", [], none⟩])]

theorem lower_patrol : patrol.lower = .ok ⟨[⟨.event .player "Join", patrolCode⟩]⟩ := by
  decide +kernel

end Sample

theorem conforms_patrol :
    Sample.patrol.lower = .ok ⟨[⟨.event .player "Join", Sample.patrolCode⟩]⟩ ∧
      List.Forall₂ Conforms Sample.patrolUses (blocksAll Sample.patrolCode) ∧
      RegularAll Sample.patrolCode ∧ ∀ v ∈ valuesAll Sample.patrolCode, v.Finite := by
  obtain ⟨hconforms, hunits⟩ := conforms_of_lower Sample.lower_patrol
  have hunit := List.forall₂_cons.mp hconforms
  exact ⟨Sample.lower_patrol, hunit.1, hunits _ List.mem_cons_self⟩

end Plotline
