import Plotline.Proofs.Lowering.Conformance

/-!
# Lexical scopes

The scope of every variable in a lowered script can be read off the text of the script. A `Spot` is
a statement anywhere in an item, with the frames around it. The body of an item, of a loop and of a
branch each are a frame; its declarations are those made on entering it and those of its statements
before the spot. What is declared in the body of a statement stands in a frame of its own, which is
gone behind the body.

A name without a scope in front of it has the scope of its latest declaration in the innermost frame
that has one (`Declared`). `Statement.mentions` lists the variables that a statement itself
mentions, in the order of the values of its blocks, so the variables of a unit and the mentions of
its item correspond one to one (`lexical_scopes_of_lower`).

Lowering keeps one list of bindings instead of frames. At every spot it is the list of the visible
declarations, from the inside to the outside and the last ones first (`visible`).
-/

namespace Plotline

open Script Instruction

namespace Script

/-! ## Frames -/

/-- A frame around a statement: what is declared on entering it, and the statements of its body that
stand before. -/
structure Frame where
  entry : List (String × Scope)
  before : List Statement

/-- The declarations of a frame in the order of the text. -/
def Frame.declarations (f : Frame) : List (String × Scope) :=
  f.entry ++ f.before.filterMap Statement.declaration?

/-- Seen from inside the frames, the innermost first, the name has the scope: that of its latest
declaration in the first frame that declares it. -/
inductive Declared : List Frame → String → Scope → Prop
  | here {f : Frame} {outer : List Frame} {name : String} {scope : Scope}
      {earlier later : List (String × Scope)}
      (latest : f.declarations = earlier ++ (name, scope) :: later)
      (last : ∀ d ∈ later, d.1 ≠ name) : Declared (f :: outer) name scope
  | outside {f : Frame} {outer : List Frame} {name : String} {scope : Scope}
      (undeclared : ∀ d ∈ f.declarations, d.1 ≠ name) (h : Declared outer name scope) :
      Declared (f :: outer) name scope

/-- A statement and the frames around it, the innermost first. -/
structure Spot where
  frames : List Frame
  statement : Statement

mutual

/-- All spots of a statement: itself, and those in its bodies. -/
def Statement.spots (fs : List Frame) : Statement → List Spot
  | .branch b => b.spots fs
  | .loop kind body bodySpan span =>
    ⟨fs, .loop kind body bodySpan span⟩ :: Statement.spotsAll fs ⟨kind.entry, []⟩ body
  | s => [⟨fs, s⟩]

def Branch.spots (fs : List Frame) : Branch → List Spot
  | .mk condition body bodySpan rest span =>
    ⟨fs, .branch (.mk condition body bodySpan rest span)⟩ ::
      (Statement.spotsAll fs ⟨[], []⟩ body ++ rest.spots fs)

def Otherwise.spots (fs : List Frame) : Otherwise → List Spot
  | .nothing => []
  | .block body _ => Statement.spotsAll fs ⟨[], []⟩ body
  | .branch b => b.spots fs

/-- The spots of the statements that come next in a frame. -/
def Statement.spotsAll (outer : List Frame) (f : Frame) : List Statement → List Spot
  | [] => []
  | s :: rest =>
    s.spots (f :: outer) ++ Statement.spotsAll outer { f with before := f.before ++ [s] } rest

end

def Item.spots (item : Item) : List Spot := Statement.spotsAll [] ⟨item.entry, []⟩ item.body

/-! ## Mentions -/

/-- What a variable in lowered code comes from: a reference that stands in some frames, a variable
that is declared, or a step of a computation. -/
inductive Mention
  | reference (frames : List Frame) (v : VarRef)
  | binding (v : VarRef)
  | temporary

/-- The value that a mention becomes. -/
def Mention.Gives : Mention → Value → Prop
  | .reference fs v, x => ∃ scope, x = .var v.name.name scope ∧
      (v.scope = some scope ∨ v.scope = none ∧ Declared fs v.name.name scope)
  | .binding v, x => x = .var v.name.name (v.scope.getD .line)
  | .temporary, x => ∃ n, x = Plotline.temporary n

/-- The variable that the value of an expression is. -/
def Expr.operand (fs : List Frame) : Expr → List Mention
  | .variable v _ => [.reference fs v]
  | .binary .. => [.temporary]
  | .constant .. | .gameValue .. => []

/-- The variables in the actions that compute an expression. An operation writes a temporary and
reads its operands. -/
def Expr.steps (fs : List Frame) : Expr → List Mention
  | .binary _ lhs rhs _ =>
    lhs.steps fs ++ rhs.steps fs ++ .temporary :: (lhs.operand fs ++ rhs.operand fs)
  | .constant .. | .variable .. | .gameValue .. => []

namespace Statement

/-- The variables of a statement outside its expressions. Some assignments read their target. -/
def targets (fs : List Frame) : Statement → List Mention
  | .declare v (some _) _ => [.binding v]
  | .assign v .set _ _ | .assign v .add _ _ | .assign v .sub _ _ => [.reference fs v]
  | .assign v .mul _ _ | .assign v .div _ _ | .assign v .mod _ _ =>
    [.reference fs v, .reference fs v]
  | .loop kind _ _ _ => kind.declared?.toList.map .binding
  | _ => []

/-- The variables that a statement itself mentions. The setup of a bracket comes behind the values
of its head; otherwise what is computed first comes first. -/
def mentions (fs : List Frame) (s : Statement) : List Mention :=
  let operands := s.targets fs ++ s.exprs.flatMap (Expr.operand fs)
  let steps := s.exprs.flatMap (Expr.steps fs)
  if s.isBracket then operands ++ steps else steps ++ operands

end Statement

def Spot.mentions (x : Spot) : List Mention := x.statement.mentions x.frames

def Item.mentions (item : Item) : List Mention := item.spots.flatMap Spot.mentions

end Script

/-! ## Visible declarations -/

/-- The bindings inside the frames. -/
def visible (fs : List Frame) : Bindings := fs.flatMap fun f => f.declarations.reverse

theorem visible_cons (f : Frame) (fs : List Frame) :
    visible (f :: fs) = f.declarations.reverse ++ visible fs := rfl

/-- A body without declarations of its own sees what is visible outside. -/
theorem visible_empty (fs : List Frame) : visible (⟨[], []⟩ :: fs) = visible fs := rfl

theorem visible_entry (kind : LoopKind) (fs : List Frame) :
    visible (⟨kind.entry, []⟩ :: fs) = kind.entry ++ visible fs := by
  cases kind <;> rfl

theorem visible_before (f : Frame) (fs : List Frame) (x : Statement) :
    visible ({ f with before := f.before ++ [x] } :: fs) =
      x.declaration?.toList ++ visible (f :: fs) := by
  rw [visible_cons, visible_cons, Frame.declarations, Frame.declarations, List.filterMap_append,
    ← List.append_assoc, List.reverse_append, List.append_assoc]
  cases hx : x.declaration? <;> simp [hx]

theorem visible_bracket {f : Frame} {fs : List Frame} {x : Statement} (hx : x.isBracket = true) :
    visible ({ f with before := f.before ++ [x] } :: fs) = visible (f :: fs) := by
  rw [visible_before]
  cases x with
  | branch b => rfl
  | loop kind body bodySpan span => rfl
  | _ => cases hx

/-- The latest declaration of a name in a frame is the first one from behind. -/
theorem find?_reverse_iff {ds : List (String × Scope)} {name : String} {scope : Scope} :
    ds.reverse.find? (fun d => d.1 = name) = some (name, scope) ↔
      ∃ earlier later, ds = earlier ++ (name, scope) :: later ∧ ∀ d ∈ later, d.1 ≠ name := by
  rw [List.find?_eq_some_iff_append]
  constructor
  · rintro ⟨-, later, earlier, hds, hlater⟩
    refine ⟨earlier.reverse, later.reverse, ?_, ?_⟩
    · rw [← List.reverse_reverse ds, hds]
      simp
    · simpa using hlater
  · rintro ⟨earlier, later, rfl, hlater⟩
    refine ⟨by simp, later.reverse, earlier.reverse, by simp, ?_⟩
    simpa using hlater

/-- Looking a name up among the visible declarations finds the one that the text says. -/
theorem scope?_visible_iff {fs : List Frame} {name : String} {scope : Scope} :
    (visible fs).scope? name = some scope ↔ Declared fs name scope := by
  have hscope : ∀ b : Bindings, b.scope? name = some scope ↔
      b.find? (fun d => d.1 = name) = some (name, scope) := by
    intro b
    rw [Bindings.scope?, Option.map_eq_some_iff]
    constructor
    · rintro ⟨d, hd, rfl⟩
      obtain rfl : d.1 = name := by simpa using List.find?_some hd
      exact hd
    · intro h
      exact ⟨_, h, rfl⟩
  rw [hscope]
  induction fs with
  | nil =>
    constructor
    · intro h
      cases h
    · intro h
      cases h
  | cons f fs ih =>
    rw [visible_cons, List.find?_append]
    constructor
    · intro h
      cases hf : f.declarations.reverse.find? (fun d => d.1 = name) with
      | some d =>
        rw [hf, Option.some_or] at h
        rw [h, find?_reverse_iff] at hf
        obtain ⟨earlier, later, hlatest, hlast⟩ := hf
        exact .here hlatest hlast
      | none =>
        rw [hf, Option.none_or] at h
        exact .outside (by simpa using hf) (ih.mp h)
    · rintro (⟨hlatest, hlast⟩ | ⟨hundeclared, h⟩)
      · rw [find?_reverse_iff.mpr ⟨_, _, hlatest, hlast⟩, Option.some_or]
      · have hf : f.declarations.reverse.find? (fun d => d.1 = name) = none := by
          simpa using hundeclared
        rw [hf, Option.none_or]
        exact ih.mpr h

theorem Script.VarRef.gives_of_resolve {fs : List Frame} {v : VarRef} {x : Value}
    (h : v.resolve (visible fs) = .ok x) : (Mention.reference fs v).Gives x := by
  rw [VarRef.resolve] at h
  split at h
  · rename_i scope hscope
    cases h
    exact ⟨scope, rfl, Or.inl hscope⟩
  · rename_i hnone
    split at h
    · rename_i scope hscope
      cases h
      exact ⟨scope, rfl, Or.inr ⟨hnone, scope?_visible_iff.mp hscope⟩⟩
    · cases h

/-! ## What values show -/

/-- The variables among the values are those that are mentioned, in the same order. -/
def Shows (ms : List Mention) (vs : List Value) : Prop :=
  List.Forall₂ Mention.Gives ms (vs.filter fun v => v.kind = .variable)

theorem values_bracket (head : Head) (setup body : List Instruction)
    (otherwise : Option (List Instruction)) :
    (Instruction.bracket head setup body otherwise).values =
      head.args ++ valuesAll setup ++ valuesAll body ++ otherwise.elim [] valuesAll := by
  cases otherwise with
  | none => rw [values, Option.elim, List.append_nil]
  | some rest => rw [values, Option.elim]

section

variable {ms ns os : List Mention} {vs ws : List Value}

theorem shows_nil : Shows [] [] := .nil

theorem Shows.append (h : Shows ms vs) (h' : Shows ns ws) : Shows (ms ++ ns) (vs ++ ws) := by
  rw [Shows, List.filter_append]
  exact List.rel_append h h'

/-- A value that is no variable shows nothing. -/
theorem shows_other {v : Value} (hv : v.kind ≠ .variable) : Shows [] [v] := by
  rw [Shows, List.filter_cons_of_neg (by simpa using hv)]
  exact .nil

theorem Script.Mention.Gives.shows {m : Mention} {v : Value} (h : m.Gives v) : Shows [m] [v] := by
  have hv : v.kind = .variable := by
    cases m with
    | reference fs ref =>
      obtain ⟨scope, rfl, -⟩ := h
      rfl
    | binding ref =>
      obtain rfl := h
      rfl
    | temporary =>
      obtain ⟨n, rfl⟩ := h
      rfl
  rw [Shows, List.filter_cons_of_pos (by simpa using hv)]
  exact .cons h .nil

theorem Script.VarRef.shows_binding (v : VarRef) :
    Shows [.binding v] [.var v.name.name v.declared] :=
  Mention.Gives.shows rfl

/-- The tags of a block are no variables. -/
theorem Shows.completeArgs {block : BlockKind} {name : String} {choices : List TagChoice}
    {span : Span} (h : Shows ms vs) (hargs : completeArgs block name vs choices span = .ok ws) :
    Shows ms ws := by
  obtain ⟨s, -, -, rfl⟩ := completeArgs_eq_ok hargs
  have htags : (tagValues block name s choices).filter (fun v => v.kind = .variable) = [] := by
    simp [tagValues, Value.kind]
  rw [Shows, List.filter_append, htags, List.append_nil]
  exact h

theorem Shows.plainAction {block : BlockKind} {name : String} {choices : List TagChoice}
    {span : Span} {i : Instruction} (h : Shows ms vs)
    (hi : plainAction block name vs choices span = .ok i) : Shows ms i.values := by
  obtain ⟨args, hargs, rfl⟩ := plainAction_eq_ok hi
  rw [values]
  exact h.completeArgs hargs

theorem Shows.concat {code : List Instruction} {i : Instruction} (h : Shows ms (valuesAll code))
    (h' : Shows ns i.values) : Shows (ms ++ ns) (valuesAll (code ++ [i])) := by
  rw [valuesAll_append, valuesAll, valuesAll, List.append_nil]
  exact h.append h'

theorem shows_single {i : Instruction} : Shows ms (valuesAll [i]) ↔ Shows ms i.values := by
  rw [valuesAll, valuesAll, List.append_nil]

theorem shows_bracket {head : Head} {setup body : List Instruction} (hhead : Shows ms head.args)
    (hsetup : Shows ns (valuesAll setup)) (hbody : Shows os (valuesAll body)) :
    Shows (ms ++ ns ++ os) (Instruction.bracket head setup body none).values := by
  rw [values]
  exact (hhead.append hsetup).append hbody

end

/-! ## Expressions, conditions and loops -/

namespace Script

section

variable {fs : List Frame} {k : Nat}

theorem Expr.shows_operand {e : Expr} {r : Lowered Value} (h : e.lower (visible fs) k = .ok r) :
    Shows (e.operand fs) [r.result] := by
  cases e with
  | constant c span =>
    obtain ⟨v, hv, hret⟩ := bind_eq_ok h
    cases hret
    apply shows_other
    rw [Constant.kind_of_value hv]
    cases c <;> simp [Constant.kind]
  | «variable» v span =>
    obtain ⟨x, hx, hret⟩ := bind_eq_ok h
    cases hret
    exact (VarRef.gives_of_resolve hx).shows
  | gameValue name target span =>
    cases target with
    | none =>
      cases h
      exact shows_other (by simp [Value.kind])
    | some target =>
      obtain ⟨t, -, hret⟩ := bind_eq_ok h
      cases hret
      exact shows_other (by simp [Value.kind])
  | binary op lhs rhs span =>
    obtain ⟨x, y, i, -, -, -, rfl⟩ := binary_of_lower h
    exact Mention.Gives.shows ⟨_, rfl⟩

theorem Expr.shows_steps {e : Expr} {r : Lowered Value} (h : e.lower (visible fs) k = .ok r) :
    Shows (e.steps fs) (valuesAll r.code) := by
  induction e generalizing k r with
  | binary op lhs rhs span ihl ihr =>
    obtain ⟨x, y, i, hx, hy, hi, rfl⟩ := binary_of_lower h
    have hresult : Shows [.temporary] [temporary y.temps] := Mention.Gives.shows ⟨_, rfl⟩
    have hargs := hresult.append ((shows_operand hx).append (shows_operand hy))
    have hcode := (ihl hx).append (ihr hy)
    rw [← valuesAll_append] at hcode
    exact hcode.concat (hargs.plainAction hi)
  | _ =>
    rw [(leaf_of_lower rfl h).1]
    exact shows_nil

theorem Expr.LowersAll.shows {es : List Expr} {r : Lowered (List Value)}
    (h : LowersAll (visible fs) es k r) :
    Shows (es.flatMap (steps fs)) (valuesAll r.code) ∧
      Shows (es.flatMap (operand fs)) r.result := by
  induction h with
  | nil => exact ⟨shows_nil, shows_nil⟩
  | cons hv _ ih =>
    obtain ⟨hsteps, hoperands⟩ := ih
    rw [List.flatMap_cons, List.flatMap_cons, valuesAll_append]
    exact ⟨(shows_steps hv).append hsteps, (shows_operand hv).append hoperands⟩

theorem Condition.shows {c : Condition} {r : Lowered Check}
    (h : c.lower (visible fs) k = .ok r) :
    Shows (c.exprs.flatMap (Expr.steps fs)) (valuesAll r.code) ∧
      Shows (c.exprs.flatMap (Expr.operand fs)) r.result.args := by
  obtain ⟨u, vs, span, hparts⟩ := parts_of_lower h
  obtain ⟨hsteps, hoperands⟩ := hparts.values.shows
  exact ⟨hsteps, hoperands.completeArgs hparts.args⟩

/-- The head of a loop mentions its variable before its expressions, which are resolved outside of
its body. -/
theorem LoopKind.Parts.shows {kind : LoopKind} {r : Lowered (List Value)} {name : String}
    (h : kind.Parts (visible fs) k r name) :
    Shows (kind.exprs.flatMap (Expr.steps fs)) (valuesAll r.code) ∧
      Shows (kind.declared?.toList.map .binding ++ kind.exprs.flatMap (Expr.operand fs))
        (kind.targets ++ r.result) := by
  obtain ⟨hsteps, hoperands⟩ := h.values.shows
  have htargets : Shows (kind.declared?.toList.map .binding) kind.targets := by
    rw [targets]
    cases kind.declared? with
    | none => exact shows_nil
    | some v => exact VarRef.shows_binding v
  exact ⟨hsteps, htargets.append hoperands⟩

end

end Script

/-- Whether the loop checks its condition itself or in its body makes no difference. -/
theorem shows_conditionLoop {ms ns os : List Mention} {setup body : List Instruction}
    {check : Check} {span : Span} {i : Instruction} (hcheck : Shows ms check.args)
    (hsetup : Shows ns (valuesAll setup)) (hbody : Shows os (valuesAll body))
    (h : conditionLoop setup check body span = .ok i) : Shows (ms ++ ns ++ os) i.values := by
  rw [conditionLoop] at h
  split at h
  · rename_i hdirect
    cases h
    rw [List.isEmpty_iff.mp hdirect.1] at hsetup
    exact shows_bracket hcheck hsetup hbody
  · obtain ⟨stop, hstop, hrest⟩ := bind_eq_ok h
    obtain ⟨args, hargs, hret⟩ := bind_eq_ok hrest
    cases hret
    -- the guard comes first in the body, so its values stand where those of the head would
    have hstop' : Shows [] (valuesAll [stop]) := shows_single.mpr (shows_nil.plainAction hstop)
    have hguard : Shows (ms ++ ns ++ []) (Instruction.bracket
        (.branch { check with inverted := !check.inverted }) setup [stop] none).values :=
      shows_bracket hcheck hsetup hstop'
    rw [List.append_nil] at hguard
    have hinside : Shows (ms ++ ns ++ os) (valuesAll (_ :: body)) := hguard.append hbody
    have hloop : Shows ([] ++ [] ++ (ms ++ ns ++ os)) (Instruction.bracket
        (.loop { name := "Forever", args }) [] (_ :: body) none).values :=
      shows_bracket (shows_nil.completeArgs hargs) shows_nil hinside
    exact hloop

/-! ## Statements -/

theorem shows_assignment {fs : List Frame} {v : VarRef} {op : AssignOp} {e : Expr}
    {target value : Value} {span : Span} {i : Instruction}
    (htarget : v.resolve (visible fs) = .ok target) (hvalue : Shows (e.operand fs) [value])
    (h : assignment op target value span = .ok i) :
    Shows (Statement.targets fs (.assign v op e span) ++ e.operand fs) i.values := by
  have hv := (VarRef.gives_of_resolve htarget).shows
  cases op with
  | set | add | sub => exact (hv.append hvalue).plainAction h
  | mul | div | mod => exact ((hv.append hv).append hvalue).plainAction h

namespace Script

section

variable {fs : List Frame}

theorem Statement.spots_of_simple {x : Statement} (hx : x.isBracket = false) :
    x.spots fs = [⟨fs, x⟩] := by
  cases x with
  | branch b => cases hx
  | loop kind body bodySpan span => cases hx
  | _ => rfl

/-- A statement that is no bracket computes the operands of its last instruction. -/
theorem Statement.shows_simple {x : Statement} (hx : x.isBracket = false)
    {code : List Instruction} {i : Instruction}
    (hsteps : Shows (x.exprs.flatMap (Expr.steps fs)) (valuesAll code))
    (hlast : Shows (x.targets fs ++ x.exprs.flatMap (Expr.operand fs)) i.values) :
    Shows ((x.spots fs).flatMap Spot.mentions) (valuesAll (code ++ [i])) := by
  rw [spots_of_simple hx, List.flatMap_singleton, Spot.mentions, Statement.mentions, hx]
  exact hsteps.concat hlast

theorem Statement.Becomes.shows {x : Statement} {s : Surroundings} {c c' : Cursor}
    {code : List Instruction} (h : x.Becomes s c code c') (hc : c.bindings = visible fs) :
    Shows ((x.spots fs).flatMap Spot.mentions) (valuesAll code) := by
  obtain ⟨b, k⟩ := c
  obtain rfl : b = visible fs := hc
  cases h with
  | action _ hr hargs =>
    obtain ⟨hsteps, hoperands⟩ := hr.shows
    exact shows_simple rfl hsteps (hoperands.completeArgs hargs)
  | declare => exact shows_nil
  | @define v _ _ _ _ hr hi =>
    have hargs := (VarRef.shows_binding v).append (Expr.shows_operand hr)
    refine shows_simple rfl ?_ ?_
    · simpa [exprs] using Expr.shows_steps hr
    · simpa [exprs, targets] using hargs.plainAction hi
  | assign htarget hr hi =>
    refine shows_simple rfl ?_ ?_
    · simpa [exprs] using Expr.shows_steps hr
    · simpa [exprs] using shows_assignment htarget (Expr.shows_operand hr) hi
  | call _ hr =>
    obtain ⟨hsteps, hoperands⟩ := hr.shows
    exact shows_simple rfl hsteps hoperands
  | start => exact shows_nil
  | waitFor hr hi =>
    refine shows_simple rfl ?_ ?_
    · simpa [exprs] using Expr.shows_steps hr
    · simpa [exprs, targets] using (Expr.shows_operand hr).plainAction hi
  | wait hi | leave hi | stop _ hi | skip _ hi =>
    exact shows_single.mpr (shows_nil.plainAction hi)

/-! ## Bodies -/

/-- The body of an else part stands in a frame without declarations; that of an else branch is the
branch itself, in the frame of the whole. Both see the same. -/
theorem Otherwise.spots_of_body? {o : Otherwise} {ys : List Statement} (h : o.body? = some ys)
    (f : Frame) (outer : List Frame) :
    ∃ f' outer', visible (f' :: outer') = visible (f :: outer) ∧
      o.spots (f :: outer) = Statement.spotsAll outer' f' ys := by
  cases o with
  | nothing => cases h
  | block body span =>
    cases h
    exact ⟨⟨[], []⟩, f :: outer, visible_empty _, by rw [spots]⟩
  | branch b =>
    cases h
    refine ⟨f, outer, rfl, ?_⟩
    rw [spots, Statement.spotsAll, Statement.spotsAll, Statement.spots, List.append_nil]

theorem Statement.shows_branch {condition : Condition} {body : List Statement}
    {bodySpan span : Span} {other : Otherwise} {k : Nat} {r : Lowered Check}
    {body' : List Instruction} {other' : Option (List Instruction)}
    (hr : condition.lower (visible fs) k = .ok r)
    (hbody : Shows ((spotsAll fs ⟨[], []⟩ body).flatMap Spot.mentions) (valuesAll body'))
    (hother : Shows ((other.spots fs).flatMap Spot.mentions) (other'.elim [] valuesAll)) :
    Shows (((Statement.branch (.mk condition body bodySpan other span)).spots fs).flatMap
      Spot.mentions) (Instruction.bracket (.branch r.result) r.code body' other').values := by
  obtain ⟨hsteps, hoperands⟩ := Condition.shows hr
  rw [spots, Branch.spots, List.flatMap_cons, List.flatMap_append, Spot.mentions, mentions,
    ← List.append_assoc, values_bracket]
  exact ((hoperands.append hsteps).append hbody).append hother

theorem Statement.shows_cons {outer : List Frame} {f : Frame} {x : Statement}
    {xs : List Statement} {i : Instruction} {rest : List Instruction}
    (hx : Shows ((x.spots (f :: outer)).flatMap Spot.mentions) i.values)
    (hxs : Shows ((spotsAll outer { f with before := f.before ++ [x] } xs).flatMap Spot.mentions)
      (valuesAll rest)) :
    Shows ((spotsAll outer f (x :: xs)).flatMap Spot.mentions) (valuesAll (i :: rest)) := by
  rw [spotsAll, List.flatMap_append, valuesAll]
  exact hx.append hxs

theorem Statement.Lowers.shows {s : Surroundings} {c : Cursor} {xs : List Statement}
    {code : List Instruction} {k : Nat} (h : Lowers s c xs code k) :
    ∀ {outer : List Frame} {f : Frame}, c.bindings = visible (f :: outer) →
      Shows ((spotsAll outer f xs).flatMap Spot.mentions) (valuesAll code) := by
  induction h with
  | nil =>
    intro outer f _
    rw [spotsAll]
    exact shows_nil
  | simple hx _ ih =>
    intro outer f hc
    rw [spotsAll, List.flatMap_append, valuesAll_append]
    -- the statement now stands before the rest, and lowering has added what it declares
    refine (hx.shows hc).append (ih ?_)
    rw [visible_before, hx.bindings, hc]
  | branch hr _ _ ihbody ih =>
    intro outer f hc
    rw [hc] at hr
    refine shows_cons (shows_branch hr (ihbody hc) ?_) (ih (hc.trans (visible_bracket rfl).symm))
    rw [Otherwise.spots]
    exact shows_nil
  | branchElse hr _ hys _ _ ihbody ihother ih =>
    intro outer f hc
    rw [hc] at hr
    -- both bodies start from the bindings of the branch, so nothing of the first reaches the second
    obtain ⟨f', outer', hvisible, hspots⟩ := Otherwise.spots_of_body? hys f outer
    refine shows_cons (shows_branch hr (ihbody hc) ?_) (ih (hc.trans (visible_bracket rfl).symm))
    rw [hspots]
    exact ihother (hc.trans hvisible.symm)
  | counted hparts hargs _ _ ihbody ih =>
    intro outer f hc
    rw [hc] at hparts
    obtain ⟨hsteps, hoperands⟩ := hparts.shows
    refine shows_cons ?_ (ih (hc.trans (visible_bracket rfl).symm))
    rw [spots, List.flatMap_cons, Spot.mentions, mentions]
    refine shows_bracket (hoperands.completeArgs hargs) hsteps (ihbody ?_)
    rw [visible_entry, hc]
  | whilst hr _ hi _ ihbody ih =>
    intro outer f hc
    rw [hc] at hr
    obtain ⟨hsteps, hoperands⟩ := Condition.shows hr
    refine shows_cons ?_ (ih (hc.trans (visible_bracket rfl).symm))
    rw [spots, List.flatMap_cons, Spot.mentions, mentions]
    exact shows_conditionLoop hoperands hsteps (ihbody hc) hi

end

theorem Item.shows {d : Definitions} {item : Item} {t : Template} (h : item.lower d = .ok t) :
    Shows item.mentions t.values := by
  obtain ⟨k, hlowers⟩ := lowers_of_lower h
  refine hlowers.shows ?_
  simp [visible, Frame.declarations]

end Script

/-- **Lexical scopes.** The variables of every unit, in order, are those that its item mentions: a
reference has the scope written in front of it, else that of the latest declaration before it in the
innermost frame that declares its name; a declared variable has the scope written in front of it,
else the line; all others are temporaries. -/
theorem lexical_scopes_of_lower {s : Script} {P : Program} (h : s.lower = .ok P) :
    List.Forall₂ (fun item unit => List.Forall₂ Mention.Gives item.mentions
      (unit.values.filter fun v => v.kind = .variable)) s.items P.units := by
  obtain ⟨d, -, hunits⟩ := forall₂_of_lower h
  exact hunits.imp fun item unit hunit => Item.shows hunit

namespace Sample

def named (name : String) (scope : Option Scope) : VarRef := ⟨⟨name, .unknown⟩, scope⟩

def reading (name : String) : Expr := .variable (named name none) .unknown

/-- A function that declares `n` in its body, as the variable of a loop, in the body of the loop and
in that of a branch. The inner ones get a value from the `n` around them. -/
def shadowed : Script where
  items := [.function ⟨"f", .unknown⟩ [⟨"p", .unknown⟩] [
    .declare (named "n" none) (some (reading "p")) .unknown,
    .loop (.forEach (named "n" (some .saved)) (reading "n")) [
      .assign (named "n" none) .mul (.binary .add (reading "n") (reading "p") .unknown) .unknown,
      .declare (named "n" (some .game)) (some (reading "n")) .unknown,
      .assign (named "n" none) .set (reading "n") .unknown] .unknown .unknown,
    .branch (.mk (.compare .less (reading "n") (reading "p") .unknown)
      [.declare (named "n" (some .thread)) (some (reading "n")) .unknown] .unknown .nothing
      .unknown),
    .assign (named "n" none) .add (reading "n") .unknown] .unknown .unknown]

def writing (name : String) (args : List Value) : Instruction := .action ⟨.setVar, name, args, none⟩

def shadowedCode : List Instruction := [
  writing "=" [.var "n" .line, .var "p" .thread],
  .bracket (.loop ⟨"ForEach", [.var "n" .saved, .var "n" .line], none, false⟩) [] [
    writing "+" [temporary 0, .var "n" .saved, .var "p" .thread],
    writing "x" [.var "n" .saved, .var "n" .saved, temporary 0],
    writing "=" [.var "n" .game, .var "n" .saved],
    writing "=" [.var "n" .game, .var "n" .game]] none,
  .bracket (.branch ⟨.ifVar, "<", [.var "n" .line, .var "p" .thread], none, false⟩) []
    [writing "=" [.var "n" .thread, .var "n" .line]] none,
  writing "+=" [.var "n" .line, .var "n" .line]]

def shadowedUnit : Template := ⟨.function "f" ["p"] false, shadowedCode⟩

theorem lower_shadowed : shadowed.lower = .ok ⟨[shadowedUnit]⟩ := by
  decide +kernel

end Sample

/-- All four scopes in one function: `n` is on the line before the loop and behind it. -/
theorem lexical_scopes_shadowed :
    Sample.shadowed.lower = .ok ⟨[Sample.shadowedUnit]⟩ ∧
      List.Forall₂ (fun item (unit : Template) => List.Forall₂ Mention.Gives item.mentions
        (unit.values.filter fun v => v.kind = .variable))
        Sample.shadowed.items [Sample.shadowedUnit] :=
  ⟨Sample.lower_shadowed, lexical_scopes_of_lower Sample.lower_shadowed⟩

end Plotline
