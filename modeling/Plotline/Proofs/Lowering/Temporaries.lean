import Plotline.Proofs.Lowering.Arithmetic
import Plotline.Proofs.Lowering.Scopes

/-!
# Temporaries and the variables of a script

Every operation in an expression becomes a block that writes a temporary, a line variable with a
name of its own: `__tmp0`, `__tmp1` and so on. The numbers are given out in the order of the blocks
and start anew in every item, so the blocks of an item with `n` operations write the temporaries
below `n` and no others (`Numbering`).

A script may use these names as well, and nothing looks out for that. The operations of an item
leave the variables of its text alone if and only if no line variable of the text has the name of a
temporary below the number of operations (`disjoint_iff_avoidsTemporaries`).
`sum_overwrites_variable` is a script in which a sum takes the place of a variable that is still
needed.
-/

namespace Plotline

open Script Instruction

/-! ## Where blocks come from -/

namespace Script

/-- What a block is made for: an operation in an expression, or a statement. -/
inductive Origin
  | operation (op : BinaryOp)
  | statement

namespace Origin

def operation? : Origin → Option BinaryOp
  | .operation op => some op
  | .statement => none

/-- The variable that is written, when the block is the arithmetic of an operation. -/
def written? : Origin → CatalogBlock → Option Value
  | .operation op, .action a =>
    if a.block = .setVar ∧ a.name = op.action then a.args.head? else none
  | _, _ => none

end Origin

def Expr.origins (e : Expr) : List Origin := e.operations.map .operation

/-- The origins of the blocks before the body of a loop. A condition that is not direct becomes a
guard with a stop, in a loop that runs forever. -/
def LoopKind.origins (kind : LoopKind) : List Origin :=
  let steps := kind.exprs.flatMap Expr.origins
  match kind with
  | .whilst c =>
    if c.isDirect then steps ++ [.statement]
    else .statement :: (steps ++ [.statement, .statement])
  | _ => steps ++ [.statement]

/-- The origins of the blocks of a statement, in their order and without those in its bodies. Calls
have no entry in the catalog. -/
def Statement.origins (s : Statement) : List Origin :=
  let steps := s.exprs.flatMap Expr.origins
  match s with
  | .loop kind _ _ _ => kind.origins
  | .declare _ none _ | .call .. | .start .. => steps
  | _ => steps ++ [.statement]

def Spot.origins (x : Spot) : List Origin := x.statement.origins

def Spot.operations (x : Spot) : List BinaryOp := x.statement.exprs.flatMap Expr.operations

namespace Item

def origins (item : Item) : List Origin := item.spots.flatMap Spot.origins

/-- The operations in all expressions of an item. -/
def operations (item : Item) : List BinaryOp := item.spots.flatMap Spot.operations

/-- The variables that the operations of the item write in its unit, in the order of the blocks. -/
def computed (item : Item) (unit : Template) : List Value :=
  (item.origins.zip (blocksAll unit.body)).filterMap fun p => p.1.written? p.2

end Item

theorem Expr.filterMap_origins (es : List Expr) :
    (es.flatMap origins).filterMap Origin.operation? = es.flatMap operations := by
  have hexpr : ∀ e : Expr, e.origins.filterMap Origin.operation? = e.operations := by
    intro e
    rw [origins, List.filterMap_map]
    exact List.filterMap_some
  rw [List.filterMap_flatMap]
  simp only [hexpr]

theorem LoopKind.filterMap_origins (kind : LoopKind) :
    kind.origins.filterMap Origin.operation? = kind.exprs.flatMap Expr.operations := by
  rw [← Expr.filterMap_origins]
  unfold LoopKind.origins
  dsimp only
  split
  · split <;> simp [List.filterMap_cons, Origin.operation?]
  · simp [Origin.operation?]

theorem Spot.filterMap_origins (x : Spot) :
    x.origins.filterMap Origin.operation? = x.operations := by
  rw [origins, operations]
  unfold Statement.origins
  split
  · rename_i kind _ _ _ hx
    rw [hx, Statement.exprs]
    exact kind.filterMap_origins
  · exact Expr.filterMap_origins _
  · exact Expr.filterMap_origins _
  · exact Expr.filterMap_origins _
  · rw [List.filterMap_append, Expr.filterMap_origins]
    exact List.append_nil _

theorem Item.filterMap_origins (item : Item) :
    item.origins.filterMap Origin.operation? = item.operations := by
  rw [origins, List.filterMap_flatMap]
  simp only [Spot.filterMap_origins]
  rfl

end Script

/-! ## Numbers of temporaries -/

theorem Instruction.blocks_action (a : Action) : (Instruction.action a).blocks = [.action a] := by
  rw [blocks]

theorem Instruction.blocksAll_singleton (i : Instruction) : blocksAll [i] = i.blocks := by
  rw [blocksAll, blocksAll, List.append_nil]

/-- Blocks of the given origins. Each operation writes the temporary with the next number, from `k`
up to `m`. -/
inductive Numbering : Nat → List Origin → List CatalogBlock → Nat → Prop
  | nil {k : Nat} : Numbering k [] [] k
  | operation {k m : Nat} {op : BinaryOp} {lhs rhs : Value} {os : List Origin}
      {bs : List CatalogBlock} (rest : Numbering (k + 1) os bs m) :
      Numbering k (.operation op :: os)
        (.action ⟨.setVar, op.action, [temporary k, lhs, rhs], none⟩ :: bs) m
  | statement {k m : Nat} {b : CatalogBlock} {os : List Origin} {bs : List CatalogBlock}
      (rest : Numbering k os bs m) : Numbering k (.statement :: os) (b :: bs) m

namespace Numbering

variable {k m n : Nat} {os ps : List Origin} {bs cs : List CatalogBlock}

theorem append (h : Numbering k os bs m) (h' : Numbering m ps cs n) :
    Numbering k (os ++ ps) (bs ++ cs) n := by
  induction h with
  | nil => exact h'
  | operation _ ih => exact .operation (ih h')
  | statement _ ih => exact .statement (ih h')

theorem single (b : CatalogBlock) : Numbering k [.statement] [b] k := .statement .nil

/-- The temporaries that are written follow each other, one for each operation. -/
theorem written (h : Numbering k os bs m) :
    (os.zip bs).filterMap (fun p => p.1.written? p.2) =
      (List.range' k (os.filterMap Origin.operation?).length).map temporary := by
  induction h with
  | nil => rfl
  | @operation k _ op _ _ _ _ _ ih =>
    have hop : (Origin.operation op).operation? = some op := rfl
    rw [List.zip_cons_cons, List.filterMap_cons_some (b := temporary k) (by simp [Origin.written?]),
      ih, List.filterMap_cons_some hop, List.length_cons, List.range'_succ, List.map_cons]
  | statement _ ih =>
    rw [List.zip_cons_cons, List.filterMap_cons_none rfl, List.filterMap_cons_none rfl]
    exact ih

/-- One more block behind instructions. -/
theorem concat {code : List Instruction} {i : Instruction} {b : CatalogBlock}
    (h : Numbering k os (blocksAll code) m) (hi : i.blocks = [b]) :
    Numbering k (os ++ [.statement]) (blocksAll (code ++ [i])) m := by
  rw [blocksAll_append, blocksAll_singleton, hi]
  exact h.append (single b)

theorem bracket {setup body : List Instruction} {other : Option (List Instruction)} (head : Head)
    (hsetup : Numbering k os (blocksAll setup) m)
    (hbody : Numbering m ps (blocksAll body ++ other.elim [] blocksAll) n) :
    Numbering k (os ++ [.statement] ++ ps)
      (Instruction.bracket head setup body other).blocks n := by
  have hblocks : (Instruction.bracket head setup body other).blocks =
      blocksAll setup ++ [.head head] ++ (blocksAll body ++ other.elim [] blocksAll) := by
    cases other <;> simp [blocks]
  rw [hblocks]
  exact (hsetup.append (single _)).append hbody

theorem bracket_none {setup body : List Instruction} (head : Head)
    (hsetup : Numbering k os (blocksAll setup) m) (hbody : Numbering m ps (blocksAll body) n) :
    Numbering k (os ++ [.statement] ++ ps) (Instruction.bracket head setup body none).blocks n :=
  hsetup.bracket head (by rwa [Option.elim, List.append_nil])

end Numbering

theorem blocks_of_plainAction {block : BlockKind} {name : String} {args : List Value}
    {tags : List TagChoice} {span : Span} {i : Instruction}
    (h : plainAction block name args tags span = .ok i) : ∃ b, i.blocks = [b] := by
  obtain ⟨args', -, rfl⟩ := plainAction_eq_ok h
  exact ⟨_, blocks_action _⟩

namespace Script

section

variable {b : Bindings} {k : Nat}

theorem Expr.numbering {e : Expr} {r : Lowered Value} (h : e.lower b k = .ok r) :
    Numbering k e.origins (blocksAll r.code) r.temps := by
  induction e generalizing k r with
  | binary op lhs rhs span ihl ihr =>
    obtain ⟨x, y, i, hx, hy, hi, rfl⟩ := binary_of_lower h
    obtain rfl := setVariable_operation hi
    have hlast : Numbering y.temps [.operation op]
        (blocksAll [.action ⟨.setVar, op.action, [temporary y.temps, x.result, y.result], none⟩])
        (y.temps + 1) := by
      rw [blocksAll_singleton, blocks_action]
      exact .operation .nil
    rw [origins, operations, List.map_append, List.map_append, blocksAll_append, blocksAll_append]
    exact ((ihl hx).append (ihr hy)).append hlast
  | _ =>
    obtain ⟨hcode, htemps⟩ := leaf_of_lower rfl h
    rw [hcode, htemps, blocksAll]
    exact .nil

theorem Expr.LowersAll.numbering {es : List Expr} {r : Lowered (List Value)}
    (h : LowersAll b es k r) :
    Numbering k (es.flatMap origins) (blocksAll r.code) r.temps := by
  induction h with
  | nil => exact .nil
  | cons hv _ ih =>
    rw [List.flatMap_cons, blocksAll_append]
    exact (Expr.numbering hv).append ih

theorem Condition.numbering {c : Condition} {r : Lowered Check} (h : c.lower b k = .ok r) :
    Numbering k (c.exprs.flatMap Expr.origins) (blocksAll r.code) r.temps := by
  obtain ⟨u, vs, span, hparts⟩ := parts_of_lower h
  exact hparts.values.numbering

theorem LoopKind.Parts.origins {kind : LoopKind} {r : Lowered (List Value)} {name : String}
    (h : kind.Parts b k r name) :
    kind.origins = kind.exprs.flatMap Expr.origins ++ [.statement] := by
  have hcondition := h.condition
  cases kind with
  | whilst c => cases hcondition
  | times | forever | forEach | range => rfl

end

/-- A loop on a condition checks it itself or in its body, as the text says. -/
theorem numbering_conditionLoop {c : Condition} {b : Bindings} {k m : Nat} {r : Lowered Check}
    {ps : List Origin} {body : List Instruction} {span : Span} {i : Instruction}
    (hc : c.lower b k = .ok r) (hbody : Numbering r.temps ps (blocksAll body) m)
    (h : conditionLoop r.code r.result body span = .ok i) :
    Numbering k ((LoopKind.whilst c).origins ++ ps) i.blocks m := by
  obtain ⟨u, hu⟩ := Condition.filled (d := {}) hc
  have hdirect := hu.isDirect_iff (Condition.onlyAssigns hc)
  have hsteps := Condition.numbering hc
  rw [LoopKind.origins, LoopKind.exprs]
  rw [conditionLoop] at h
  split at h
  · rename_i hempty
    cases h
    rw [if_pos (hdirect.mpr hempty)]
    rw [List.isEmpty_iff.mp hempty.1] at hsteps
    exact hsteps.bracket_none _ hbody
  · rename_i hempty
    obtain ⟨stop, hstop, hrest⟩ := bind_eq_ok h
    obtain ⟨args, -, hret⟩ := bind_eq_ok hrest
    cases hret
    obtain ⟨b', hb'⟩ := blocks_of_plainAction hstop
    have hstop' : Numbering r.temps [.statement] (blocksAll [stop]) r.temps := by
      rw [blocksAll_singleton, hb']
      exact .single b'
    have hguard := hsteps.bracket_none
      (.branch { r.result with inverted := !r.result.inverted }) hstop'
    have hinside : Numbering k (_ ++ ps) (blocksAll (_ :: body)) m := hguard.append hbody
    have hloop : Numbering k ([] ++ [.statement] ++ _) (Instruction.bracket
        (.loop { name := "Forever", args }) [] (_ :: body) none).blocks m :=
      Numbering.nil.bracket_none _ hinside
    rw [if_neg fun hd => hempty (hdirect.mp hd)]
    simpa only [List.nil_append, List.append_assoc, List.cons_append] using hloop

/-! ## Statements -/

theorem Statement.numbering_simple {x : Statement} (hx : x.isBracket = false)
    (horigins : x.origins = x.exprs.flatMap Expr.origins ++ [.statement]) {fs : List Frame}
    {k m : Nat} {code : List Instruction} {i : Instruction}
    (hsteps : Numbering k (x.exprs.flatMap Expr.origins) (Instruction.blocksAll code) m)
    (hi : ∃ b, i.blocks = [b]) :
    Numbering k ((x.spots fs).flatMap Spot.origins) (Instruction.blocksAll (code ++ [i])) m := by
  obtain ⟨b, hb⟩ := hi
  rw [spots_of_simple hx, List.flatMap_singleton, Spot.origins, horigins]
  exact hsteps.concat hb

theorem Statement.numbering_single {x : Statement} (hx : x.isBracket = false)
    (horigins : x.origins = [.statement]) {fs : List Frame} {k : Nat} {i : Instruction}
    (hi : ∃ b, i.blocks = [b]) :
    Numbering k ((x.spots fs).flatMap Spot.origins) (Instruction.blocksAll [i]) k := by
  obtain ⟨b, hb⟩ := hi
  rw [spots_of_simple hx, List.flatMap_singleton, Spot.origins, horigins, blocksAll_singleton, hb]
  exact .single b

theorem Statement.Becomes.numbering {x : Statement} {s : Surroundings} {c c' : Cursor}
    {code : List Instruction} (h : x.Becomes s c code c') (fs : List Frame) :
    Numbering c.temps ((x.spots fs).flatMap Spot.origins) (Instruction.blocksAll code)
      c'.temps := by
  cases h with
  | action _ hr _ =>
    exact numbering_simple rfl rfl hr.numbering ⟨_, blocks_action _⟩
  | declare => exact .nil
  | define hr hi =>
    refine numbering_simple rfl rfl ?_ (blocks_of_plainAction hi)
    simpa [exprs] using Expr.numbering hr
  | @assign _ op _ _ _ _ _ _ hr hi =>
    rw [assignment_eq op .variable] at hi
    refine numbering_simple rfl rfl ?_ (blocks_of_plainAction hi)
    simpa [exprs] using Expr.numbering hr
  | call _ hr =>
    rw [spots_of_simple rfl, List.flatMap_singleton, blocksAll_append, blocksAll_singleton,
      Instruction.blocks, List.append_nil]
    exact hr.numbering
  | start => exact .nil
  | waitFor hr hi =>
    refine numbering_simple rfl rfl ?_ (blocks_of_plainAction hi)
    simpa [exprs] using Expr.numbering hr
  | wait hi | leave hi | stop _ hi | skip _ hi =>
    exact numbering_single rfl rfl (blocks_of_plainAction hi)

/-! ## Bodies -/

theorem Statement.numbering_branch {condition : Condition} {body : List Statement}
    {bodySpan span : Span} {other : Otherwise} {fs : List Frame} {b : Bindings} {k m n : Nat}
    {r : Lowered Check} {body' : List Instruction} {other' : Option (List Instruction)}
    (hr : condition.lower b k = .ok r)
    (hbody : Numbering r.temps ((spotsAll fs ⟨[], []⟩ body).flatMap Spot.origins)
      (Instruction.blocksAll body') m)
    (hother : Numbering m ((other.spots fs).flatMap Spot.origins)
      (other'.elim [] Instruction.blocksAll) n) :
    Numbering k (((Statement.branch (.mk condition body bodySpan other span)).spots fs).flatMap
      Spot.origins) (Instruction.bracket (.branch r.result) r.code body' other').blocks n := by
  rw [spots, Branch.spots, List.flatMap_cons, List.flatMap_append]
  exact (Condition.numbering hr).bracket _ (hbody.append hother)

theorem Statement.numbering_cons {outer : List Frame} {f : Frame} {x : Statement}
    {xs : List Statement} {i : Instruction} {rest : List Instruction} {k m n : Nat}
    (hx : Numbering k ((x.spots (f :: outer)).flatMap Spot.origins) i.blocks m)
    (hxs : Numbering m
      ((spotsAll outer { f with before := f.before ++ [x] } xs).flatMap Spot.origins)
      (Instruction.blocksAll rest) n) :
    Numbering k ((spotsAll outer f (x :: xs)).flatMap Spot.origins)
      (Instruction.blocksAll (i :: rest)) n := by
  rw [spotsAll, List.flatMap_append, Instruction.blocksAll]
  exact hx.append hxs

theorem Statement.Lowers.numbering {s : Surroundings} {c : Cursor} {xs : List Statement}
    {code : List Instruction} {k : Nat} (h : Lowers s c xs code k) :
    ∀ (outer : List Frame) (f : Frame), Numbering c.temps
      ((spotsAll outer f xs).flatMap Spot.origins) (Instruction.blocksAll code) k := by
  induction h with
  | nil =>
    intro outer f
    rw [spotsAll]
    exact .nil
  | simple hx _ ih =>
    intro outer f
    rw [spotsAll, List.flatMap_append, blocksAll_append]
    exact (hx.numbering _).append (ih _ _)
  | branch hr _ _ ihbody ih =>
    intro outer f
    refine numbering_cons (numbering_branch hr (ihbody _ _) ?_) (ih _ _)
    rw [Otherwise.spots]
    exact .nil
  | branchElse hr _ hys _ _ ihbody ihother ih =>
    intro outer f
    obtain ⟨f', outer', -, hspots⟩ := Otherwise.spots_of_body? hys f outer
    refine numbering_cons (numbering_branch hr (ihbody _ _) ?_) (ih _ _)
    rw [hspots]
    exact ihother _ _
  | counted hparts _ _ _ ihbody ih =>
    intro outer f
    refine numbering_cons ?_ (ih _ _)
    rw [spots, List.flatMap_cons, Spot.origins, Statement.origins, hparts.origins]
    exact hparts.values.numbering.bracket_none _ (ihbody _ _)
  | whilst hr _ hi _ ihbody ih =>
    intro outer f
    refine numbering_cons ?_ (ih _ _)
    rw [spots, List.flatMap_cons, Spot.origins, Statement.origins]
    exact numbering_conditionLoop hr (ihbody _ _) hi

theorem Item.numbering {d : Definitions} {item : Item} {t : Template} (h : item.lower d = .ok t) :
    ∃ m, Numbering 0 item.origins (Instruction.blocksAll t.body) m := by
  obtain ⟨k, hlowers⟩ := lowers_of_lower h
  exact ⟨k, hlowers.numbering _ _⟩

/-- The operations of an item write the temporaries below their number, each once and in order. -/
theorem Item.computed_of_lower {d : Definitions} {item : Item} {t : Template}
    (h : item.lower d = .ok t) :
    item.computed t = (List.range item.operations.length).map temporary := by
  obtain ⟨m, hm⟩ := Item.numbering h
  rw [computed, hm.written, item.filterMap_origins, List.range_eq_range']

/-! ## Variables of the text -/

/-- The mention stands in the text: it is a reference or a declaration. -/
def Mention.isWritten : Mention → Bool
  | .reference .. | .binding _ => true
  | .temporary => false

/-- The variables of the unit that come from references and declarations of the item. -/
def Item.named (item : Item) (unit : Template) : List Value :=
  ((item.mentions.zip (unit.values.filter fun v => v.kind = .variable)).filter
    fun p => p.1.isWritten).map Prod.snd

/-- No line variable in the text of the item has the name of a temporary that an operation of the
item writes. -/
def Item.AvoidsTemporaries (item : Item) : Prop :=
  ∀ n < item.operations.length, ∀ m ∈ item.mentions, m.isWritten = true → ¬ m.Gives (temporary n)

theorem Declared.unique {fs : List Frame} {name : String} {scope scope' : Scope}
    (h : Declared fs name scope) (h' : Declared fs name scope') : scope = scope' := by
  rw [← scope?_visible_iff] at h h'
  exact Option.some.inj (h.symm.trans h')

theorem Mention.Gives.unique {m : Mention} {v w : Value} (hm : m.isWritten = true) (hv : m.Gives v)
    (hw : m.Gives w) : v = w := by
  cases m with
  | reference fs ref =>
    obtain ⟨scope, rfl, hscope⟩ := hv
    obtain ⟨scope', rfl, hscope'⟩ := hw
    rcases hscope with hsome | ⟨hnone, hdeclared⟩
    · rcases hscope' with hsome' | ⟨hnone', -⟩
      · rw [Option.some.inj (hsome.symm.trans hsome')]
      · cases hsome.symm.trans hnone'
    · rcases hscope' with hsome' | ⟨-, hdeclared'⟩
      · cases hnone.symm.trans hsome'
      · rw [hdeclared.unique hdeclared']
  | binding ref => exact hv.trans hw.symm
  | temporary => cases hm

theorem Item.mem_named_iff {d : Definitions} {item : Item} {t : Template} {v : Value}
    (h : item.lower d = .ok t) :
    v ∈ item.named t ↔ ∃ m ∈ item.mentions, m.isWritten = true ∧ m.Gives v := by
  have hshows := Item.shows h
  obtain ⟨-, hgives⟩ := List.forall₂_iff_zip.mp hshows
  constructor
  · intro hv
    obtain ⟨⟨m, w⟩, hmem, rfl⟩ := List.mem_map.mp hv
    obtain ⟨hzip, hm⟩ := List.mem_filter.mp hmem
    exact ⟨m, (List.of_mem_zip hzip).1, hm, hgives hzip⟩
  · rintro ⟨m, hmem, hm, hv⟩
    rw [← List.map_fst_zip hshows.length_eq.le] at hmem
    obtain ⟨⟨m, w⟩, hzip, rfl⟩ := List.mem_map.mp hmem
    obtain rfl := (hgives hzip).unique hm hv
    exact List.mem_map.mpr ⟨(m, w), List.mem_filter.mpr ⟨hzip, hm⟩, rfl⟩

end Script

/-- **Temporaries.** In every unit of a lowered script the operations write the temporaries with the
numbers below that of the operations of its item. They leave the variables of the text alone exactly
when the text has no line variable with one of these names. -/
theorem disjoint_iff_avoidsTemporaries {s : Script} {P : Program} (h : s.lower = .ok P) :
    List.Forall₂ (fun item unit =>
        item.computed unit = (List.range item.operations.length).map temporary ∧
          ((item.named unit).Disjoint (item.computed unit) ↔ item.AvoidsTemporaries))
      s.items P.units := by
  obtain ⟨d, -, hunits⟩ := forall₂_of_lower h
  refine hunits.imp fun item unit hunit => ?_
  have hcomputed := Item.computed_of_lower hunit
  refine ⟨hcomputed, ?_⟩
  rw [hcomputed]
  constructor
  · intro hdisjoint n hn m hmem hm hgives
    refine hdisjoint ((Item.mem_named_iff hunit).mpr ⟨m, hmem, hm, hgives⟩) ?_
    exact List.mem_map.mpr ⟨n, List.mem_range.mpr hn, rfl⟩
  · intro havoids v hnamed hwritten
    obtain ⟨n, hn, rfl⟩ := List.mem_map.mp hwritten
    obtain ⟨m, hmem, hm, hgives⟩ := (Item.mem_named_iff hunit).mp hnamed
    exact havoids n (List.mem_range.mp hn) m hmem hm hgives

namespace Sample

def literal (bits : Nat) : Expr := .constant (.number ⟨false, bits⟩) .unknown

/-- Sets a variable to seven, sets another one to `1 + 2` and shows the first one. -/
def summing (name : String) : Item :=
  .event .player ⟨"Join", .unknown⟩ [
    .declare (named name none) (some (literal 0x401C000000000000)) .unknown,
    .declare (named "sum" none)
      (some (.binary .add (literal 0x3FF0000000000000) (literal 0x4000000000000000) .unknown))
      .unknown,
    .action { family := .player, name := ⟨"SendMessage", .unknown⟩, args := [reading name] }]
    .unknown .unknown

def summingUnit (name : String) : Template :=
  ⟨.event .player "Join", [
    writing "=" [.var name .line, .number ⟨false, 0x40E00000⟩],
    writing "+" [temporary 0, .number ⟨false, 0x3F800000⟩, .number ⟨false, 0x40000000⟩],
    writing "=" [.var "sum" .line, temporary 0],
    .action ⟨.playerAction, "SendMessage",
      [.var name .line, .tag ⟨"SendMessage", "Alignment Mode", "Regular", "player_action"⟩,
        .tag ⟨"SendMessage", "Text Value Merging", "Add spaces", "player_action"⟩], none⟩]⟩

theorem lower_summing_spared : Script.lower { items := [summing "__tmp1"] } =
    .ok ⟨[summingUnit "__tmp1"]⟩ := by
  decide +kernel

end Sample

/-- One operation takes one temporary, so the name of the next one is free. -/
theorem avoidsTemporaries_summing :
    (Sample.summing "__tmp1").computed (Sample.summingUnit "__tmp1") = [temporary 0] ∧
      (Sample.summing "__tmp1").named (Sample.summingUnit "__tmp1") =
        [.var "__tmp1" .line, .var "sum" .line, .var "__tmp1" .line] ∧
      (Sample.summing "__tmp1").AvoidsTemporaries := by
  refine ⟨by decide, by decide, ?_⟩
  have hunits := disjoint_iff_avoidsTemporaries Sample.lower_summing_spared
  exact (List.forall₂_cons.mp hunits).1.2.mp (List.disjoint_left.mpr (by decide))

/-- With the name of the first temporary the variable is overwritten by the sum before it is
shown. -/
theorem sum_overwrites_variable :
    Script.lower { items := [Sample.summing "__tmp0"] } =
        .ok ⟨[Sample.summingUnit "__tmp0"]⟩ ∧
      temporary 0 ∈ (Sample.summing "__tmp0").named (Sample.summingUnit "__tmp0") ∧
      temporary 0 ∈ (Sample.summing "__tmp0").computed (Sample.summingUnit "__tmp0") := by
  refine ⟨by decide +kernel, by decide, by decide⟩

end Plotline
