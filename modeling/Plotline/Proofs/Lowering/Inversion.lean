import Plotline.Proofs.Lowering.WellFormed

/-!
# Taking lowering apart

Lowering fails with the first of its steps that does. What follows from its success is the same
whatever is asked about the result: all steps before it succeeded, and the result is put together
from theirs. This is said here once.

* `Condition.Parts`, `LoopKind.Parts`: the check of a condition and the head of a counted loop are
  made of the values of their expressions.
* `Statement.Becomes`: what a statement without bodies is lowered to.
* `Statement.Lowers`: what a body is lowered to, with one constructor for each kind of bracket. A
  fact about lowered bodies is shown by induction on it (`lowers_of_lowerAll`).

A statement has bodies in it, and an else part may be a branch again. `Statement.body_induction` is
the induction over all of these at once; an else part counts as a body (`Otherwise.body?`).
-/

namespace Plotline

open Script

/-! ## Blocks -/

theorem plainAction_eq_ok {block : BlockKind} {name : String} {args : List Value}
    {choices : List TagChoice} {span : Span} {i : Instruction}
    (h : plainAction block name args choices span = .ok i) :
    ∃ args', completeArgs block name args choices span = .ok args' ∧
      i = .action ⟨block, name, args', none⟩ := by
  obtain ⟨args', hargs, hret⟩ := bind_eq_ok h
  cases hret
  exact ⟨args', hargs, rfl⟩

namespace Script

/-- The arguments of an assignment. Some read their target. -/
def AssignOp.args (op : AssignOp) (target value : Value) : List Value :=
  match op with
  | .set | .add | .sub => [target, value]
  | .mul | .div | .mod => [target, target, value]

theorem assignment_eq (op : AssignOp) (kind : ValueKind) (target value : Value) (span : Span) :
    assignment op target value span = plainAction (op.use kind).block (op.use kind).name
      (op.args target value) (op.use kind).choices span := by
  cases op <;> rfl

theorem AssignOp.kinds_args (op : AssignOp) {target : Value} (h : target.kind = .variable)
    (value : Value) : (op.args target value).map Value.kind = (op.use value.kind).kinds := by
  cases op <;> simp [args, use, h]

theorem AssignOp.mem_args {op : AssignOp} {target value v : Value}
    (h : v ∈ op.args target value) : v = target ∨ v = value := by
  cases op <;> simpa [args] using h

/-! ## Expressions -/

section

variable {b : Bindings} {k : Nat}

theorem Expr.leaf_of_lower {e : Expr} (hleaf : e.use? = none) {r : Lowered Value}
    (h : e.lower b k = .ok r) : r.code = [] ∧ r.temps = k := by
  cases e with
  | constant c span | «variable» v span =>
    obtain ⟨x, -, hret⟩ := bind_eq_ok h
    cases hret
    exact ⟨rfl, rfl⟩
  | gameValue name target span =>
    cases target with
    | none =>
      cases h
      exact ⟨rfl, rfl⟩
    | some i =>
      obtain ⟨t, -, hret⟩ := bind_eq_ok h
      cases hret
      exact ⟨rfl, rfl⟩
  | binary op lhs rhs span => cases hleaf

theorem Expr.binary_of_lower {op : BinaryOp} {lhs rhs : Expr} {span : Span} {r : Lowered Value}
    (h : (Expr.binary op lhs rhs span).lower b k = .ok r) :
    ∃ x y i, lhs.lower b k = .ok x ∧ rhs.lower b x.temps = .ok y ∧
      setVariable op.action [temporary y.temps, x.result, y.result] span = .ok i ∧
      r = ⟨x.code ++ y.code ++ [i], temporary y.temps, y.temps + 1⟩ := by
  obtain ⟨x, hx, hrest⟩ := bind_eq_ok h
  obtain ⟨y, hy, hrest⟩ := bind_eq_ok hrest
  obtain ⟨i, hi, hret⟩ := bind_eq_ok hrest
  cases hret
  exact ⟨x, y, i, hx, hy, hi, rfl⟩

/-- The values of several expressions, one after the other. -/
inductive Expr.LowersAll (b : Bindings) : List Expr → Nat → Lowered (List Value) → Prop
  | nil {k : Nat} : LowersAll b [] k ⟨[], [], k⟩
  | cons {e : Expr} {es : List Expr} {k : Nat} {r : Lowered Value} {rs : Lowered (List Value)}
      (h : e.lower b k = .ok r) (hs : LowersAll b es r.temps rs) :
      LowersAll b (e :: es) k ⟨r.code ++ rs.code, r.result :: rs.result, rs.temps⟩

theorem Expr.lowersAll_of_lowerAll {es : List Expr} {r : Lowered (List Value)}
    (h : lowerAll b es k = .ok r) : LowersAll b es k r := by
  induction es generalizing k r with
  | nil =>
    cases h
    exact .nil
  | cons e es ih =>
    obtain ⟨v, hv, hrest⟩ := bind_eq_ok h
    obtain ⟨vs, hvs, hret⟩ := bind_eq_ok hrest
    cases hret
    exact .cons hv (ih hvs)

theorem Expr.LowersAll.single {e : Expr} {r : Lowered Value} (h : e.lower b k = .ok r) :
    LowersAll b [e] k ⟨r.code, [r.result], r.temps⟩ := by
  simpa using LowersAll.cons h .nil

theorem Expr.LowersAll.pair {e e' : Expr} {r r' : Lowered Value} (h : e.lower b k = .ok r)
    (h' : e'.lower b r.temps = .ok r') :
    LowersAll b [e, e'] k ⟨r.code ++ r'.code, [r.result, r'.result], r'.temps⟩ :=
  .cons h (.single h')

/-! ## Actions and conditions -/

theorem ActionCall.parts_of_lower {call : ActionCall} {block : BlockKind}
    {r : Lowered (Option Selector × List Value)} (h : call.lowerParts b block k = .ok r) :
    ∃ vs, lowerTarget block call.target = .ok r.result.1 ∧
      Expr.LowersAll b call.args k ⟨r.code, vs, r.temps⟩ ∧
      completeArgs block call.name.name vs call.tags call.span = .ok r.result.2 := by
  obtain ⟨target, htarget, hrest⟩ := bind_eq_ok h
  obtain ⟨args, hargs, hrest⟩ := bind_eq_ok hrest
  obtain ⟨complete, hcomplete, hret⟩ := bind_eq_ok hrest
  cases hret
  exact ⟨args.result, htarget, Expr.lowersAll_of_lowerAll hargs, hcomplete⟩

/-- The parts of a check: the block that the condition asks for has the values of the expressions
and the chosen tags. -/
structure Condition.Parts (b : Bindings) (k : Nat) (c : Condition) (r : Lowered Check) (u : Use)
    (vs : List Value) (span : Span) : Prop where
  use : c.use? = some u
  isCheck : u.block ∈ [.ifPlayer, .ifEntity, .ifGame, .ifVar]
  kinds : u.kinds = c.exprs.map Expr.kind
  values : Expr.LowersAll b c.exprs k ⟨r.code, vs, r.temps⟩
  block : r.result.block = u.block
  name : r.result.name = u.name
  target : r.result.target.isNone = (c.call?.bind ActionCall.target).isNone
  args : completeArgs u.block u.name vs u.choices span = .ok r.result.args

theorem isNone_of_lowerTarget {block : BlockKind} {target : Option Ident} {t : Option Selector}
    (h : lowerTarget block target = .ok t) : t.isNone = target.isNone := by
  cases target with
  | none =>
    cases h
    rfl
  | some i =>
    rw [lowerTarget] at h
    split at h
    · obtain ⟨selector, -, rfl⟩ := map_eq_ok h
      rfl
    · cases h

theorem Condition.parts_of_lower {c : Condition} {r : Lowered Check} (h : c.lower b k = .ok r) :
    ∃ u vs span, c.Parts b k r u vs span := by
  induction c generalizing r with
  | compare op lhs rhs span =>
    obtain ⟨x, hx, hrest⟩ := bind_eq_ok h
    obtain ⟨y, hy, hrest⟩ := bind_eq_ok hrest
    obtain ⟨args, hargs, hret⟩ := bind_eq_ok hrest
    cases hret
    exact ⟨_, _, span, rfl, by simp, rfl, .pair hx hy, rfl, rfl, rfl, hargs⟩
  | check call =>
    rw [Condition.lower] at h
    split at h
    · cases h
    · rename_i block hblock
      obtain ⟨parts, hparts, hret⟩ := bind_eq_ok h
      cases hret
      obtain ⟨vs, htarget, hvs, hargs⟩ := ActionCall.parts_of_lower hparts
      refine ⟨call.use block, vs, call.span, ?_, ?_, rfl, hvs, rfl, rfl,
        isNone_of_lowerTarget htarget, hargs⟩
      · rw [use?, hblock]
        rfl
      · show block ∈ _
        cases hfamily : call.family <;> rw [hfamily] at hblock <;> cases hblock <;> decide
  | not c ih =>
    obtain ⟨r', hr, hret⟩ := bind_eq_ok h
    cases hret
    obtain ⟨u, vs, span, hp⟩ := ih hr
    exact ⟨u, vs, span, hp.use, hp.isCheck, hp.kinds, hp.values, hp.block, hp.name, hp.target,
      hp.args⟩

end

/-! ## Loops -/

/-- The variable that a loop declares for its body. -/
def LoopKind.declared? : LoopKind → Option VarRef
  | .forEach var _ | .range var _ _ => some var
  | .times _ | .forever | .whilst _ => none

/-- What is declared on entering the body of a loop. -/
def LoopKind.entry (kind : LoopKind) : List (String × Scope) :=
  kind.declared?.toList.map fun v => (v.name.name, v.scope.getD .line)

/-- The arguments of a counted loop in front of the values of its expressions. -/
def LoopKind.targets (kind : LoopKind) : List Value :=
  kind.declared?.toList.map fun v => .var v.name.name v.declared

theorem LoopKind.map_kind_targets (kind : LoopKind) :
    kind.targets.map Value.kind = kind.declared?.toList.map fun _ => .variable := by
  rw [targets, List.map_map]
  rfl

/-- The parts of the head of a counted loop. -/
structure LoopKind.Parts (b : Bindings) (k : Nat) (kind : LoopKind) (r : Lowered (List Value))
    (name : String) : Prop where
  condition : kind.condition? = none
  use : kind.use? = some
    ⟨.loop, name, (kind.declared?.toList.map fun _ => .variable) ++ kind.exprs.map Expr.kind, []⟩
  values : Expr.LowersAll b kind.exprs k r

theorem LoopKind.parts_of_lower {b : Bindings} {k : Nat} {kind : LoopKind}
    (hkind : kind.condition? = none) {r : Lowered LoopHead} (h : kind.lower b k = .ok r) :
    ∃ name vs, kind.Parts b k ⟨r.code, vs, r.temps⟩ name ∧
      r.result = .counted name (kind.targets ++ vs) kind.entry := by
  cases kind with
  | times e | forEach var e =>
    obtain ⟨x, hx, hret⟩ := bind_eq_ok h
    cases hret
    exact ⟨_, _, ⟨rfl, rfl, .single hx⟩, rfl⟩
  | forever =>
    cases h
    exact ⟨_, _, ⟨rfl, rfl, .nil⟩, rfl⟩
  | range var first last =>
    obtain ⟨x, hx, hrest⟩ := bind_eq_ok h
    obtain ⟨y, hy, hret⟩ := bind_eq_ok hrest
    cases hret
    exact ⟨_, _, ⟨rfl, rfl, .pair hx hy⟩, rfl⟩
  | whilst c => cases hkind

/-! ## Statements without bodies -/

def Statement.isBracket : Statement → Bool
  | .branch _ | .loop .. => true
  | _ => false

/-- The instructions that a statement without bodies is lowered to, and the cursor behind it. -/
inductive Statement.Becomes (s : Surroundings) (c : Cursor) :
    Statement → List Instruction → Cursor → Prop
  | action {a : ActionCall} {target : Option Selector} {r : Lowered (List Value)}
      {args : List Value} (htarget : lowerTarget a.family.actionBlock a.target = .ok target)
      (hr : Expr.LowersAll c.bindings a.args c.temps r)
      (hargs : completeArgs a.family.actionBlock a.name.name r.result a.tags a.span = .ok args) :
      Becomes s c (.action a)
        (r.code ++ [.action ⟨a.family.actionBlock, a.name.name, args, target⟩])
        ⟨c.bindings, r.temps⟩
  | declare {v : VarRef} {span : Span} :
      Becomes s c (.declare v none span) [] ⟨(v.name.name, v.declared) :: c.bindings, c.temps⟩
  | define {v : VarRef} {e : Expr} {span : Span} {r : Lowered Value} {i : Instruction}
      (hr : e.lower c.bindings c.temps = .ok r)
      (hi : assignment .set (.var v.name.name v.declared) r.result span = .ok i) :
      Becomes s c (.declare v (some e) span) (r.code ++ [i])
        ⟨(v.name.name, v.declared) :: c.bindings, r.temps⟩
  | assign {v : VarRef} {op : AssignOp} {e : Expr} {span : Span} {target : Value}
      {r : Lowered Value} {i : Instruction} (htarget : v.resolve c.bindings = .ok target)
      (hr : e.lower c.bindings c.temps = .ok r)
      (hi : assignment op target r.result span = .ok i) :
      Becomes s c (.assign v op e span) (r.code ++ [i]) ⟨c.bindings, r.temps⟩
  | call {name : Ident} {args : List Expr} {span : Span} {r : Lowered (List Value)}
      (harity : s.definitions.arity? name.name = some args.length)
      (hr : Expr.LowersAll c.bindings args c.temps r) :
      Becomes s c (.call name args span) (r.code ++ [.call ⟨.function, name.name, r.result⟩])
        ⟨c.bindings, r.temps⟩
  | start {name : Ident} {span : Span} (hname : name.name ∈ s.definitions.processes) :
      Becomes s c (.start name span) [.call ⟨.process, name.name, []⟩] c
  | wait {tags : List TagChoice} {span : Span} {i : Instruction}
      (hi : controlAction "Wait" [] tags span = .ok i) : Becomes s c (.wait none tags span) [i] c
  | waitFor {e : Expr} {tags : List TagChoice} {span : Span} {r : Lowered Value} {i : Instruction}
      (hr : e.lower c.bindings c.temps = .ok r)
      (hi : controlAction "Wait" [r.result] tags span = .ok i) :
      Becomes s c (.wait (some e) tags span) (r.code ++ [i]) ⟨c.bindings, r.temps⟩
  | leave {span : Span} {i : Instruction}
      (hi : controlAction (if s.inEvent then "End" else "Return") [] [] span = .ok i) :
      Becomes s c (.leave span) [i] c
  | stop {span : Span} {i : Instruction} (hloop : s.inLoop = true)
      (hi : controlAction "StopRepeat" [] [] span = .ok i) : Becomes s c (.stop span) [i] c
  | skip {span : Span} {i : Instruction} (hloop : s.inLoop = true)
      (hi : controlAction "Skip" [] [] span = .ok i) : Becomes s c (.skip span) [i] c

theorem Statement.becomes_of_lower {x : Statement} (hx : x.isBracket = false) {s : Surroundings}
    {c c' : Cursor} {code : List Instruction} (h : x.lower s c = .ok (code, c')) :
    x.Becomes s c code c' := by
  cases x with
  | action a =>
    obtain ⟨r, hr, hret⟩ := bind_eq_ok h
    cases hret
    obtain ⟨parts, hparts, hret⟩ := bind_eq_ok hr
    cases hret
    obtain ⟨vs, htarget, hvs, hargs⟩ := ActionCall.parts_of_lower hparts
    exact .action htarget hvs hargs
  | declare v value span =>
    cases value with
    | none =>
      cases h
      exact .declare
    | some e =>
      obtain ⟨r, hr, hrest⟩ := bind_eq_ok h
      obtain ⟨i, hi, hret⟩ := bind_eq_ok hrest
      cases hret
      exact .define hr hi
  | assign target op e span =>
    obtain ⟨t, ht, hrest⟩ := bind_eq_ok h
    obtain ⟨r, hr, hrest⟩ := bind_eq_ok hrest
    obtain ⟨i, hi, hret⟩ := bind_eq_ok hrest
    cases hret
    exact .assign ht hr hi
  | branch b => cases hx
  | loop kind body bodySpan span => cases hx
  | call name args span =>
    rw [lower] at h
    split at h
    · cases h
    · rename_i arity harity
      split at h
      · cases h
      · rename_i hcount
        obtain ⟨r, hr, hret⟩ := bind_eq_ok h
        cases hret
        exact .call (by rw [harity, not_not.mp hcount]) (Expr.lowersAll_of_lowerAll hr)
  | start name span =>
    rw [lower] at h
    split at h
    · rename_i hname
      cases h
      exact .start hname
    · cases h
  | wait duration tags span =>
    cases duration with
    | none =>
      obtain ⟨i, hi, hret⟩ := bind_eq_ok h
      cases hret
      exact .wait hi
    | some e =>
      obtain ⟨r, hr, hrest⟩ := bind_eq_ok h
      obtain ⟨i, hi, hret⟩ := bind_eq_ok hrest
      cases hret
      exact .waitFor hr hi
  | leave span =>
    obtain ⟨i, hi, hret⟩ := bind_eq_ok h
    cases hret
    exact .leave hi
  | stop span =>
    rw [lower] at h
    split at h
    · rename_i hloop
      obtain ⟨i, hi, hret⟩ := bind_eq_ok h
      cases hret
      exact .stop hloop hi
    · cases h
  | skip span =>
    rw [lower] at h
    split at h
    · rename_i hloop
      obtain ⟨i, hi, hret⟩ := bind_eq_ok h
      cases hret
      exact .skip hloop hi
    · cases h

/-- What a statement declares is added to the bindings, and nothing else changes them. -/
theorem Statement.Becomes.bindings {x : Statement} {s : Surroundings} {c c' : Cursor}
    {code : List Instruction} (h : x.Becomes s c code c') :
    c'.bindings = x.declaration?.toList ++ c.bindings := by
  cases h <;> rfl

/-! ## Bodies -/

/-- The body that is run when the condition fails. A branch there stands alone in it. -/
def Otherwise.body? : Otherwise → Option (List Statement)
  | .nothing => none
  | .block body _ => some body
  | .branch b => some [.branch b]

theorem Otherwise.eq_nothing {o : Otherwise} (h : o.body? = none) : o = .nothing := by
  cases o with
  | nothing => rfl
  | block body span => cases h
  | branch b => cases h

theorem Otherwise.lower_of_body? {o : Otherwise} {ys : List Statement} (h : o.body? = some ys)
    (s : Surroundings) (c : Cursor) :
    o.lower s c = (do
      let (body, temps) ← Statement.lowerAll ys s c
      return (some body, temps)) := by
  cases o with
  | nothing => cases h
  | block body span =>
    cases h
    rfl
  | branch b =>
    cases h
    rw [lower, Statement.lowerAll, Statement.lower]
    cases b.lower s c with
    | error e => rfl
    | ok r => rfl

/-- A branch grows when it is put into a body, but stays smaller than the branch whose else part it
is. -/
theorem Otherwise.sizeOf_body? {o : Otherwise} {ys : List Statement} (h : o.body? = some ys) :
    sizeOf ys ≤ sizeOf o + 2 := by
  cases o with
  | nothing => cases h
  | block body span =>
    cases h
    rw [Otherwise.block.sizeOf_spec]
    omega
  | branch b =>
    cases h
    simp only [Otherwise.branch.sizeOf_spec, List.cons.sizeOf_spec, Statement.branch.sizeOf_spec,
      List.nil.sizeOf_spec]
    omega

/-- Induction on a body and on all bodies in it. -/
@[elab_as_elim]
theorem Statement.body_induction {motive : List Statement → Prop} (nil : motive [])
    (simple : ∀ (x : Statement) (xs : List Statement), x.isBracket = false → motive xs →
      motive (x :: xs))
    (branch : ∀ (condition : Condition) (body : List Statement) (bodySpan : Span)
      (other : Otherwise) (span : Span) (xs : List Statement), motive body →
      (∀ ys, other.body? = some ys → motive ys) → motive xs →
      motive (.branch (.mk condition body bodySpan other span) :: xs))
    (loop : ∀ (kind : LoopKind) (body : List Statement) (bodySpan span : Span)
      (xs : List Statement), motive body → motive xs →
      motive (.loop kind body bodySpan span :: xs)) (xs : List Statement) : motive xs :=
  match xs with
  | [] => nil
  | .branch (.mk condition body bodySpan other span) :: xs =>
    branch condition body bodySpan other span xs (body_induction nil simple branch loop body)
      (fun ys h => have := Otherwise.sizeOf_body? h; body_induction nil simple branch loop ys)
      (body_induction nil simple branch loop xs)
  | .loop kind body bodySpan span :: xs =>
    loop kind body bodySpan span xs (body_induction nil simple branch loop body)
      (body_induction nil simple branch loop xs)
  | .action .. :: xs | .declare .. :: xs | .assign .. :: xs | .call .. :: xs | .start .. :: xs
  | .wait .. :: xs | .leave .. :: xs | .stop .. :: xs | .skip .. :: xs =>
    simple _ xs rfl (body_induction nil simple branch loop xs)
termination_by sizeOf xs

/-- The instructions that a body is lowered to, and the number of the next temporary behind it. -/
inductive Statement.Lowers :
    Surroundings → Cursor → List Statement → List Instruction → Nat → Prop
  | nil {s : Surroundings} {c : Cursor} : Lowers s c [] [] c.temps
  | simple {s : Surroundings} {c c' : Cursor} {x : Statement} {xs : List Statement}
      {code rest : List Instruction} {k : Nat} (hx : x.Becomes s c code c')
      (hxs : Lowers s c' xs rest k) : Lowers s c (x :: xs) (code ++ rest) k
  | branch {s : Surroundings} {c : Cursor} {condition : Condition} {body xs : List Statement}
      {bodySpan span : Span} {r : Lowered Check} {body' rest : List Instruction} {m k : Nat}
      (hr : condition.lower c.bindings c.temps = .ok r)
      (hbody : Lowers s ⟨c.bindings, r.temps⟩ body body' m)
      (hxs : Lowers s ⟨c.bindings, m⟩ xs rest k) :
      Lowers s c (.branch (.mk condition body bodySpan .nothing span) :: xs)
        (.bracket (.branch r.result) r.code body' none :: rest) k
  | branchElse {s : Surroundings} {c : Cursor} {condition : Condition}
      {body ys xs : List Statement} {bodySpan span : Span} {other : Otherwise}
      {r : Lowered Check} {body' other' rest : List Instruction} {m n k : Nat}
      (hr : condition.lower c.bindings c.temps = .ok r)
      (hbody : Lowers s ⟨c.bindings, r.temps⟩ body body' m) (hys : other.body? = some ys)
      (hother : Lowers s ⟨c.bindings, m⟩ ys other' n)
      (hxs : Lowers s ⟨c.bindings, n⟩ xs rest k) :
      Lowers s c (.branch (.mk condition body bodySpan other span) :: xs)
        (.bracket (.branch r.result) r.code body' (some other') :: rest) k
  | counted {s : Surroundings} {c : Cursor} {kind : LoopKind} {body xs : List Statement}
      {bodySpan span : Span} {r : Lowered (List Value)} {name : String} {args : List Value}
      {body' rest : List Instruction} {m k : Nat}
      (hparts : kind.Parts c.bindings c.temps r name)
      (hargs : completeArgs .loop name (kind.targets ++ r.result) [] span = .ok args)
      (hbody : Lowers { s with inLoop := true } ⟨kind.entry ++ c.bindings, r.temps⟩ body body' m)
      (hxs : Lowers s ⟨c.bindings, m⟩ xs rest k) :
      Lowers s c (.loop kind body bodySpan span :: xs)
        (.bracket (.loop { name, args }) r.code body' none :: rest) k
  | whilst {s : Surroundings} {c : Cursor} {condition : Condition} {body xs : List Statement}
      {bodySpan span : Span} {r : Lowered Check} {body' rest : List Instruction}
      {i : Instruction} {m k : Nat} (hr : condition.lower c.bindings c.temps = .ok r)
      (hbody : Lowers { s with inLoop := true } ⟨c.bindings, r.temps⟩ body body' m)
      (hi : conditionLoop r.code r.result body' span = .ok i)
      (hxs : Lowers s ⟨c.bindings, m⟩ xs rest k) :
      Lowers s c (.loop (.whilst condition) body bodySpan span :: xs) (i :: rest) k

theorem Statement.lowers_of_lowerAll {xs : List Statement} {s : Surroundings} {c : Cursor}
    {code : List Instruction} {k : Nat} (h : lowerAll xs s c = .ok (code, k)) :
    Lowers s c xs code k := by
  induction xs using Statement.body_induction generalizing s c code k with
  | nil =>
    cases h
    exact .nil
  | simple x xs hx ih =>
    obtain ⟨⟨code', c'⟩, hx', hrest⟩ := bind_eq_ok h
    obtain ⟨⟨rest, k'⟩, hxs, hret⟩ := bind_eq_ok hrest
    cases hret
    exact .simple (becomes_of_lower hx hx') (ih hxs)
  | branch condition body bodySpan other span xs ihbody ihother ih =>
    obtain ⟨⟨code', c'⟩, hx, hrest⟩ := bind_eq_ok h
    obtain ⟨⟨rest, k'⟩, hxs, hret⟩ := bind_eq_ok hrest
    cases hret
    obtain ⟨⟨i, temps⟩, hb, hret⟩ := bind_eq_ok hx
    cases hret
    obtain ⟨r, hr, hrest⟩ := bind_eq_ok hb
    obtain ⟨⟨body', m⟩, hbody, hrest⟩ := bind_eq_ok hrest
    obtain ⟨⟨other', n⟩, hother, hret⟩ := bind_eq_ok hrest
    cases hret
    -- an else part is lowered as the body that it stands for
    cases hys : other.body? with
    | none =>
      obtain rfl := Otherwise.eq_nothing hys
      cases hother
      exact .branch hr (ihbody hbody) (ih hxs)
    | some ys =>
      rw [Otherwise.lower_of_body? hys] at hother
      obtain ⟨⟨is, n'⟩, his, hret⟩ := bind_eq_ok hother
      cases hret
      exact .branchElse hr (ihbody hbody) hys (ihother ys hys his) (ih hxs)
  | loop kind body bodySpan span xs ihbody ih =>
    obtain ⟨⟨code', c'⟩, hx, hrest⟩ := bind_eq_ok h
    obtain ⟨⟨rest, k'⟩, hxs, hret⟩ := bind_eq_ok hrest
    cases hret
    obtain ⟨head, hhead, hrest⟩ := bind_eq_ok hx
    cases hkind : kind.condition? with
    | none =>
      obtain ⟨name, vs, hparts, hresult⟩ := LoopKind.parts_of_lower hkind hhead
      rw [hresult] at hrest
      obtain ⟨args, hargs, hrest⟩ := bind_eq_ok hrest
      obtain ⟨⟨body', m⟩, hbody, hret⟩ := bind_eq_ok hrest
      cases hret
      exact .counted hparts hargs (ihbody hbody) (ih hxs)
    | some condition =>
      obtain rfl : kind = .whilst condition := by
        cases kind <;> cases hkind
        rfl
      obtain ⟨r, hr, hret⟩ := bind_eq_ok hhead
      cases hret
      obtain ⟨⟨body', m⟩, hbody, hrest⟩ := bind_eq_ok hrest
      obtain ⟨i, hi, hret⟩ := bind_eq_ok hrest
      cases hret
      exact .whilst hr (ihbody hbody) hi (ih hxs)

/-! ## Items -/

def Item.isEvent : Item → Bool
  | .event .. => true
  | .function .. | .process .. => false

/-- What is declared on entering an item. The parameters of a function live as long as its
thread. -/
def Item.entry : Item → List (String × Scope)
  | .function _ params _ _ _ => params.map fun p => (p.name, .thread)
  | .event .. | .process .. => []

theorem Item.lowers_of_lower {d : Definitions} {item : Item} {t : Template}
    (h : item.lower d = .ok t) :
    ∃ k, Statement.Lowers ⟨d, item.isEvent, false⟩ ⟨item.entry.reverse, 0⟩ item.body t.body k := by
  cases item with
  | event | process =>
    obtain ⟨⟨body, k⟩, hbody, hret⟩ := bind_eq_ok h
    cases hret
    exact ⟨k, Statement.lowers_of_lowerAll hbody⟩
  | function name params =>
    obtain ⟨⟨body, k⟩, hbody, hret⟩ := bind_eq_ok h
    cases hret
    rw [List.map_map] at hbody
    exact ⟨k, Statement.lowers_of_lowerAll hbody⟩

end Script

end Plotline
