import Plotline.Proofs.Lowering.Inversion

/-!
# Lowering accepts exactly the well-formed scripts

Every step of the lowering checks something about the statement it is at, about the names declared
so far and about the kinds of values. So whether it succeeds can be said step by step: of a block
(`succeeds_completeArgs`), an expression (`Expr.succeeds_lower`), a condition, a statement and a
body (`Statement.acceptsBody`). The names declared so far are those of the bindings, and the
number of the next temporary never matters.

Some blocks are added by the lowering and have no counterpart in the script, such as the check that
guards a loop. The catalog always admits them.
-/

namespace Plotline

open Script

/-! ## Blocks -/

theorem ArgKind.accepts_iff {k : ArgKind} {v : Value} : k.accepts v = true ↔ k.Admits v.kind := by
  rw [accepts, Admits]
  generalize v.kind = kind
  cases k <;> cases kind <;> decide

section

variable {s : Signature} {name : String} {span : Span}

theorem succeeds_checkCount {count : Nat} :
    Succeeds (checkCount s name count span) ↔
      s.minArgs ≤ count ∧ (∀ high, s.maxArgs? = some high → count ≤ high) ∧
        count ≤ chestSlots - s.tags.length := by
  have hany : s.maxArgs?.any (· < count) = true ↔
      ¬ ∀ high, s.maxArgs? = some high → count ≤ high := by
    cases s.maxArgs? <;> simp
  simp only [checkCount, hany]
  split
  · rename_i hcount
    refine iff_of_false (not_succeeds_error _) ?_
    rintro ⟨hmin, hmax, -⟩
    rcases hcount with hcount | hcount
    · omega
    · exact hcount hmax
  · rename_i hcount
    obtain ⟨hmin, hmax⟩ := not_or.mp hcount
    split
    · exact iff_of_false (not_succeeds_error _) (by omega)
    · exact iff_of_true (succeeds_ok _) ⟨by omega, not_not.mp hmax, by omega⟩

theorem succeeds_checkKinds {index : Nat} {vs : List Value} :
    Succeeds (checkKinds s name span index vs) ↔
      ∀ i kind, (vs.map Value.kind)[i]? = some kind →
        ∀ p, s.paramFor? (index + i) = some p → p.kind.Admits kind := by
  induction vs generalizing index with
  | nil => exact iff_of_true (succeeds_ok _) (by simp)
  | cons v vs ih =>
    -- the first argument apart from the others
    have hsplit : (∀ i kind, ((v :: vs).map Value.kind)[i]? = some kind →
        ∀ p, s.paramFor? (index + i) = some p → p.kind.Admits kind) ↔
        (∀ p, s.paramFor? index = some p → p.kind.Admits v.kind) ∧
          Succeeds (checkKinds s name span (index + 1) vs) := by
      rw [ih]
      constructor
      · intro h
        refine ⟨h 0 v.kind rfl, fun i kind hkind => ?_⟩
        rw [Nat.add_assoc, Nat.add_comm 1]
        exact h (i + 1) kind hkind
      · rintro ⟨hfirst, hrest⟩ i kind hkind
        cases i with
        | zero =>
          obtain rfl : v.kind = kind := Option.some.inj hkind
          exact hfirst
        | succ i =>
          rw [Nat.add_comm i, ← Nat.add_assoc]
          exact hrest i kind hkind
    rw [hsplit, checkKinds]
    split
    · rename_i p hp
      split
      · rename_i haccepts
        simp [hp, ArgKind.accepts_iff.mp haccepts]
      · rename_i haccepts
        refine iff_of_false (not_succeeds_error _) fun h => haccepts ?_
        exact ArgKind.accepts_iff.mpr (h.1 p hp)
    · rename_i hp
      simp [hp]

theorem succeeds_checkTags {choices : List TagChoice} :
    Succeeds (checkTags s name choices) ↔
      ∀ t ∈ choices, ∃ spec, s.tag? t.name = some spec ∧ t.option ∈ spec.options := by
  induction choices with
  | nil => exact iff_of_true (succeeds_ok _) (by simp)
  | cons t ts ih =>
    rw [checkTags, List.forall_mem_cons, ← ih]
    split
    · rename_i hnone
      simp [hnone]
    · rename_i spec hspec
      split <;> simp [*]

/-- A block can be completed if it is in the catalog and used as its entry says. -/
theorem succeeds_completeArgs {block : BlockKind} {args : List Value} {choices : List TagChoice} :
    Succeeds (completeArgs block name args choices span) ↔
      (Use.mk block name (args.map Value.kind) choices).Fits := by
  rw [completeArgs, Use.Fits]
  split
  · rename_i hnone
    simp [hnone]
  · rename_i s hs
    have hchecks : Succeeds (do
        checkCount s name args.length span
        checkKinds s name span 0 args
        checkTags s name choices
        return args ++ tagValues block name s choices) ↔
        s.Admits (args.map Value.kind) choices := by
      rw [succeeds_bind_iff fun _ _ => succeeds_bind_iff fun _ _ => succeeds_bind_pure,
        succeeds_checkCount, succeeds_checkKinds, succeeds_checkTags]
      simp only [Nat.zero_add]
      constructor
      · rintro ⟨⟨hmin, hmax, hroom⟩, hkinds, htags⟩
        exact ⟨by simpa using hmin, by simpa using hmax, by simpa using hroom, hkinds, htags⟩
      · intro h
        refine ⟨⟨?_, ?_, ?_⟩, h.accepted, h.options⟩
        · simpa using h.enough
        · simpa using h.notTooMany
        · simpa using h.room
    simpa [hs] using hchecks

theorem completeArgs_eq_ok {block : BlockKind} {args args' : List Value}
    {choices : List TagChoice} (h : completeArgs block name args choices span = .ok args') :
    ∃ s, Catalog.signature? block name = some s ∧ s.Admits (args.map Value.kind) choices ∧
      args' = args ++ tagValues block name s choices := by
  obtain ⟨s, hs, hadmits⟩ := succeeds_completeArgs.mp ⟨args', h⟩
  refine ⟨s, hs, hadmits, ?_⟩
  rw [completeArgs, hs] at h
  iterate 3 obtain ⟨_, -, h⟩ := bind_eq_ok h
  cases h
  rfl

theorem succeeds_plainAction {block : BlockKind} {args : List Value} {choices : List TagChoice} :
    Succeeds (plainAction block name args choices span) ↔
      (Use.mk block name (args.map Value.kind) choices).Fits :=
  succeeds_bind_pure.trans succeeds_completeArgs

end

/-! ## Expressions -/

namespace Script

/-- The scope of a variable is written in front of it, or the variable is declared. -/
def VarRef.Resolves (names : List String) (v : VarRef) : Prop :=
  v.scope.isSome = true ∨ v.name.name ∈ names

/-- Nothing is wrong with an expression, apart from those in it. -/
def Expr.NodeSound (names : List String) : Expr → Prop
  | .constant c _ => c.Valid
  | .variable v _ => v.Resolves names
  | .gameValue _ target _ => ∀ i, target = some i → i.IsSelector
  | .binary op lhs rhs span => ∀ u, (Expr.binary op lhs rhs span).use? = some u → u.Fits

def Expr.Sound (names : List String) (e : Expr) : Prop := ∀ p ∈ e.parts, p.NodeSound names

theorem VarRef.succeeds_resolve {b : Bindings} {v : VarRef} :
    Succeeds (v.resolve b) ↔ v.Resolves (b.map Prod.fst) := by
  have hscope : (b.scope? v.name.name).isSome = true ↔ v.name.name ∈ b.map Prod.fst := by
    rw [Bindings.scope?, Option.isSome_map, List.find?_isSome]
    simp
  rw [resolve, Resolves, ← hscope]
  cases v.scope with
  | some scope => simp
  | none => cases b.scope? v.name.name <;> simp

theorem VarRef.kind_of_resolve {b : Bindings} {v : VarRef} {x : Value} (h : v.resolve b = .ok x) :
    x.kind = .variable := by
  rw [resolve] at h
  split at h
  · cases h
    rfl
  · split at h
    · cases h
      rfl
    · cases h

theorem Ident.succeeds_selector {i : Ident} : Succeeds i.selector ↔ i.IsSelector := by
  have hname : (Selector.ofName? i.name).isSome = true ↔ i.IsSelector := by
    rw [Selector.ofName?, List.find?_isSome, IsSelector]
    constructor
    · rintro ⟨s, -, hs⟩
      exact ⟨s, of_decide_eq_true hs⟩
    · rintro ⟨s, hs⟩
      exact ⟨s, by cases s <;> decide, decide_eq_true hs⟩
  rw [selector, ← hname]
  cases Selector.ofName? i.name <;> simp

namespace Expr

section

variable {b : Bindings}

theorem kind_of_lower {e : Expr} {k : Nat} {r : Lowered Value} (h : e.lower b k = .ok r) :
    r.result.kind = e.kind := by
  cases e with
  | constant c span =>
    obtain ⟨v, hv, hret⟩ := bind_eq_ok h
    cases hret
    exact Constant.kind_of_value hv
  | «variable» v span =>
    obtain ⟨x, hx, hret⟩ := bind_eq_ok h
    cases hret
    exact VarRef.kind_of_resolve hx
  | gameValue name target span =>
    cases target with
    | none =>
      cases h
      rfl
    | some i =>
      obtain ⟨s, -, hret⟩ := bind_eq_ok h
      cases hret
      rfl
  | binary op lhs rhs span =>
    obtain ⟨x, y, i, -, -, -, rfl⟩ := binary_of_lower h
    rfl

theorem sound_of_leaf {names : List String} {e : Expr} (h : e.parts = [e]) :
    e.Sound names ↔ e.NodeSound names := by
  rw [Sound, h, List.forall_mem_singleton]

theorem succeeds_lower {e : Expr} {k : Nat} :
    Succeeds (e.lower b k) ↔ e.Sound (b.map Prod.fst) := by
  induction e generalizing k with
  | constant c span =>
    rw [sound_of_leaf rfl]
    exact succeeds_bind_pure.trans Constant.succeeds_value
  | «variable» v span =>
    rw [sound_of_leaf rfl]
    exact succeeds_bind_pure.trans VarRef.succeeds_resolve
  | gameValue name target span =>
    rw [sound_of_leaf rfl]
    cases target with
    | none => exact iff_of_true (succeeds_ok _) (by simp [NodeSound])
    | some i =>
      refine succeeds_bind_pure.trans (Ident.succeeds_selector.trans ?_)
      simp [NodeSound]
  | binary op lhs rhs span ihl ihr =>
    rw [Sound, parts, List.forall_mem_cons, List.forall_mem_append]
    have hsteps : Succeeds ((Expr.binary op lhs rhs span).lower b k) ↔
        lhs.Sound (b.map Prod.fst) ∧ rhs.Sound (b.map Prod.fst) ∧
          (Expr.binary op lhs rhs span).NodeSound (b.map Prod.fst) := by
      rw [← ihl (k := k)]
      refine succeeds_bind_iff fun l hl => ?_
      rw [← ihr (k := l.temps)]
      refine succeeds_bind_iff fun r hr => ?_
      refine succeeds_bind_pure.trans (succeeds_plainAction.trans ?_)
      simp only [List.map_cons, List.map_nil, kind_of_lower hl, kind_of_lower hr, NodeSound, use?,
        Option.some.injEq, forall_eq']
      rfl
    rw [hsteps]
    exact and_rotate.symm

theorem LowersAll.kinds {es : List Expr} {k : Nat} {r : Lowered (List Value)}
    (h : LowersAll b es k r) : r.result.map Value.kind = es.map kind := by
  induction h with
  | nil => rfl
  | cons hv _ ih => exact congrArg₂ List.cons (kind_of_lower hv) ih

theorem succeeds_lowerAll {es : List Expr} {k : Nat} :
    Succeeds (lowerAll b es k) ↔ ∀ e ∈ es, e.Sound (b.map Prod.fst) := by
  induction es generalizing k with
  | nil => exact iff_of_true (succeeds_ok _) (by simp)
  | cons e es ih =>
    rw [List.forall_mem_cons, ← succeeds_lower (k := k)]
    exact succeeds_bind_iff fun v _ => succeeds_bind_pure.trans ih

end

end Expr

/-! ## Actions and conditions -/

/-- The target of a call, if it has one. -/
def ActionCall.TargetSound (c : ActionCall) : Prop :=
  ∀ i, c.target = some i → (c.family = .player ∨ c.family = .entity) ∧ i.IsSelector

/-- Nothing is wrong with a condition. -/
structure Condition.Sound (names : List String) (c : Condition) : Prop where
  exprs : ∀ e ∈ c.exprs, e.Sound names
  notControl : ∀ call, c.call? = some call → call.family ≠ .control
  target : ∀ call, c.call? = some call → call.TargetSound
  use : ∀ u, c.use? = some u → u.Fits

section

variable {b : Bindings}

theorem succeeds_lowerTarget {block : BlockKind} {target : Option Ident} :
    Succeeds (lowerTarget block target) ↔
      ∀ i, target = some i → hasTarget block = true ∧ i.IsSelector := by
  cases target with
  | none => exact iff_of_true (succeeds_ok _) (by simp)
  | some i =>
    rw [lowerTarget]
    split
    · rename_i hblock
      refine (succeeds_map_iff (f := some)).trans (Ident.succeeds_selector.trans ?_)
      simp [hblock]
    · rename_i hblock
      simp [hblock]

theorem ActionCall.succeeds_lowerParts {c : ActionCall} {block : BlockKind} {k : Nat}
    (hblock : hasTarget block = true ↔ c.family = .player ∨ c.family = .entity) :
    Succeeds (c.lowerParts b block k) ↔
      c.TargetSound ∧ (∀ e ∈ c.args, e.Sound (b.map Prod.fst)) ∧ (c.use block).Fits := by
  have htarget : Succeeds (lowerTarget block c.target) ↔ c.TargetSound := by
    rw [succeeds_lowerTarget, TargetSound, hblock]
  rw [← htarget]
  refine succeeds_bind_iff fun target _ => ?_
  rw [← Expr.succeeds_lowerAll (k := k)]
  refine succeeds_bind_iff fun args hargs => ?_
  refine succeeds_bind_pure.trans (succeeds_completeArgs.trans ?_)
  rw [(Expr.lowersAll_of_lowerAll hargs).kinds, use]

theorem ActionCall.succeeds_lower {c : ActionCall} {k : Nat} :
    Succeeds (c.lower b k) ↔ c.TargetSound ∧ (∀ e ∈ c.args, e.Sound (b.map Prod.fst)) ∧
      (c.use c.family.actionBlock).Fits := by
  refine succeeds_bind_pure.trans (ActionCall.succeeds_lowerParts ?_)
  cases c.family <;> decide

theorem Condition.succeeds_lower {c : Condition} {k : Nat} :
    Succeeds (c.lower b k) ↔ c.Sound (b.map Prod.fst) := by
  induction c generalizing k with
  | compare op lhs rhs span =>
    have hsteps : Succeeds ((Condition.compare op lhs rhs span).lower b k) ↔
        lhs.Sound (b.map Prod.fst) ∧ rhs.Sound (b.map Prod.fst) ∧
          (Use.mk .ifVar op.check [lhs.kind, rhs.kind] []).Fits := by
      rw [← Expr.succeeds_lower (k := k)]
      refine succeeds_bind_iff fun l hl => ?_
      rw [← Expr.succeeds_lower (k := l.temps)]
      refine succeeds_bind_iff fun r hr => ?_
      refine succeeds_bind_pure.trans (succeeds_completeArgs.trans ?_)
      simp only [List.map_cons, List.map_nil, Expr.kind_of_lower hl, Expr.kind_of_lower hr]
    rw [hsteps]
    constructor
    · rintro ⟨hl, hr, hfits⟩
      exact ⟨by simp [exprs, hl, hr], by simp [call?], by simp [call?], by simpa [use?] using hfits⟩
    · intro h
      obtain ⟨hl, hr⟩ : lhs.Sound (b.map Prod.fst) ∧ rhs.Sound (b.map Prod.fst) := by
        simpa [exprs] using h.exprs
      exact ⟨hl, hr, h.use _ rfl⟩
  | check call =>
    rw [lower]
    split
    · rename_i hnone
      refine iff_of_false (not_succeeds_error _) fun h => h.notControl call rfl ?_
      cases hfamily : call.family <;> simp [hfamily, Family.checkBlock?] at hnone
      rfl
    · rename_i block hblock
      have hfamily : call.family ≠ .control := by
        intro hcontrol
        rw [hcontrol] at hblock
        cases hblock
      have htarget : hasTarget block = true ↔ call.family = .player ∨ call.family = .entity := by
        cases hfamily : call.family <;> rw [hfamily] at hblock <;> cases hblock <;> decide
      refine succeeds_bind_pure.trans ((ActionCall.succeeds_lowerParts htarget).trans ?_)
      constructor
      · rintro ⟨htarget, hargs, hfits⟩
        refine ⟨hargs, by simpa [call?] using hfamily, by simpa [call?] using htarget, ?_⟩
        simpa [use?, hblock] using hfits
      · intro h
        exact ⟨h.target call rfl, h.exprs, h.use _ (by simp [use?, hblock])⟩
  | not c ih =>
    refine succeeds_bind_pure.trans (ih.trans ?_)
    exact ⟨fun h => ⟨h.exprs, h.notControl, h.target, h.use⟩,
      fun h => ⟨h.exprs, h.notControl, h.target, h.use⟩⟩

/-! ## Loops -/

theorem LoopKind.succeeds_lower {kind : LoopKind} (h : kind.condition? = none) {k : Nat} :
    Succeeds (kind.lower b k) ↔ ∀ e ∈ kind.exprs, e.Sound (b.map Prod.fst) := by
  cases kind with
  | times count => exact succeeds_bind_pure.trans (by simp [exprs, Expr.succeeds_lower])
  | forever => exact iff_of_true (succeeds_ok _) (by simp [exprs])
  | forEach var list => exact succeeds_bind_pure.trans (by simp [exprs, Expr.succeeds_lower])
  | range var first last =>
    have hexprs : (∀ e ∈ (LoopKind.range var first last).exprs, e.Sound (b.map Prod.fst)) ↔
        first.Sound (b.map Prod.fst) ∧ last.Sound (b.map Prod.fst) := by
      simp [exprs]
    rw [hexprs, ← Expr.succeeds_lower (k := k)]
    exact succeeds_bind_iff fun x _ => succeeds_bind_pure.trans Expr.succeeds_lower
  | whilst c => cases h

theorem LoopKind.names_entry (kind : LoopKind) : kind.entry.map Prod.fst = kind.declares := by
  cases kind <;> rfl

/-- The block of a counted loop fits if its arguments can be completed. -/
theorem LoopKind.Parts.fits_iff {kind : LoopKind} {k : Nat} {r : Lowered (List Value)}
    {name : String} (h : kind.Parts b k r name) (span : Span) :
    (∀ u, kind.use? = some u → u.Fits) ↔
      Succeeds (completeArgs .loop name (kind.targets ++ r.result) [] span) := by
  rw [succeeds_completeArgs, h.use, List.map_append, map_kind_targets, h.values.kinds]
  simp

end

/-- A block without parameters and tags. -/
theorem fits_of_plain {block : BlockKind} {name : String}
    (h : Catalog.signature? block name = some ⟨[], []⟩) : (Use.mk block name [] []).Fits := by
  refine ⟨_, h, ?_⟩
  exact ⟨Nat.zero_le _, fun _ _ => Nat.zero_le _, Nat.zero_le _, by simp, by simp⟩

/-- The blocks around a loop on a condition are always right. -/
theorem succeeds_conditionLoop {setup body : List Instruction} {check : Check} {span : Span} :
    Succeeds (conditionLoop setup check body span) := by
  have hstop : (Use.mk .control "StopRepeat" [] []).Fits := fits_of_plain rfl
  have hforever : (Use.mk .loop "Forever" [] []).Fits := fits_of_plain rfl
  rw [conditionLoop]
  split
  · exact succeeds_ok _
  · refine (succeeds_bind_iff fun stop _ => succeeds_bind_pure).mpr ?_
    exact ⟨succeeds_plainAction.mpr hstop, succeeds_completeArgs.mpr hforever⟩

/-! ## Statements -/

/-- The clauses about expressions, for each of them. -/
theorem forall_nodeSound_iff {names : List String} {ps : List Expr} :
    (∀ p ∈ ps, p.NodeSound names) ↔
      (∀ v ∈ ps.filterMap Expr.reference?, v.Resolves names) ∧
      (∀ name i span, .gameValue name (some i) span ∈ ps → i.IsSelector) ∧
      (∀ c span, .constant c span ∈ ps → c.Valid) ∧ ∀ u ∈ ps.filterMap Expr.use?, u.Fits := by
  simp only [List.forall_mem_filterMap]
  constructor
  · intro h
    refine ⟨fun p hp v hv => ?_, fun name i span hp => h _ hp i rfl, fun c span hp => h _ hp,
      fun p hp u hu => ?_⟩
    · cases p <;> cases hv
      exact h _ hp
    · cases p <;> cases hu
      exact h _ hp _ rfl
  · rintro ⟨hreferences, hselectors, hliterals, huses⟩ p hp
    cases p with
    | constant c span => exact hliterals c span hp
    | «variable» v span => exact hreferences _ hp v rfl
    | gameValue name target span =>
      rintro i rfl
      exact hselectors name i span hp
    | binary op lhs rhs span => exact fun u hu => huses _ hp u hu

/-- The clauses of `Place.Sound`, with those about expressions in one. -/
theorem Place.sound_iff {s : Script} {names : List String} {inLoop : Bool} {x : Statement} :
    Place.Sound s ⟨names, inLoop, x⟩ ↔
      (∀ e ∈ x.exprs, e.Sound names) ∧ (∀ u, x.use? = some u → u.Fits) ∧
      (∀ target op e span, x = .assign target op e span → target.Resolves names) ∧
      (∀ call ∈ x.calls, call.TargetSound) ∧
      (∀ c call, x.condition? = some c → c.call? = some call → call.family ≠ .control) ∧
      (∀ name args span, x = .call name args span →
        ∃ item ∈ s.items, item.function? = some (name.name, args.length)) ∧
      (∀ name span, x = .start name span →
        ∃ item ∈ s.items, item.processName? = some name.name) ∧
      ∀ span, x = .stop span ∨ x = .skip span → inLoop = true := by
  have hexprs : (∀ e ∈ x.exprs, e.Sound names) ↔ ∀ p ∈ x.parts, p.NodeSound names := by
    simp only [Statement.parts, List.mem_flatMap, Expr.Sound]
    exact ⟨fun h p ⟨e, he, hp⟩ => h e he p hp, fun h e he p hp => h p ⟨e, he, hp⟩⟩
  have hreferences : (∀ v ∈ x.references, v.Resolves names) ↔
      (∀ v ∈ x.parts.filterMap Expr.reference?, v.Resolves names) ∧
        ∀ target op e span, x = .assign target op e span → target.Resolves names := by
    cases x with
    | assign target op e span =>
      rw [Statement.references, List.forall_mem_cons]
      refine ⟨fun h => ⟨h.2, ?_⟩, fun h => ⟨h.2 _ _ _ _ rfl, h.1⟩⟩
      rintro _ _ _ _ ⟨⟩
      exact h.1
    | _ => simp [Statement.references]
  have huses : (∀ u ∈ x.uses, u.Fits) ↔
      (∀ u, x.use? = some u → u.Fits) ∧ ∀ u ∈ x.parts.filterMap Expr.use?, u.Fits := by
    simp only [Statement.uses, List.forall_mem_append, Option.mem_toList]
  rw [hexprs, forall_nodeSound_iff]
  constructor
  · intro h
    have href := hreferences.mp h.references
    have huse := huses.mp h.uses
    exact ⟨⟨href.1, h.selectors, h.literals, huse.2⟩, huse.1, href.2, h.targets, h.conditions,
      h.calls, h.starts, h.exits⟩
  · rintro ⟨⟨href, hselectors, hliterals, huse⟩, hown, htarget, htargets, hconditions, hcalls,
      hstarts, hexits⟩
    exact ⟨hcalls, hstarts, hreferences.mpr ⟨href, htarget⟩, hexits, hconditions, htargets,
      hselectors, hliterals, huses.mpr ⟨hown, huse⟩⟩

theorem succeeds_controlAction {name : String} {args : List Value} {tags : List TagChoice}
    {span : Span} : Succeeds (controlAction name args tags span) ↔
      (Use.mk .control name (args.map Value.kind) tags).Fits := succeeds_plainAction

theorem succeeds_assignment (op : AssignOp) {target value : Value} {span : Span}
    (h : target.kind = .variable) :
    Succeeds (assignment op target value span) ↔ (op.use value.kind).Fits := by
  rw [assignment_eq op value.kind, succeeds_plainAction, op.kinds_args h]

/-- What a statement declares is added to the bindings, and nothing else changes them. -/
theorem Statement.bindings_of_lower {x : Statement} {sur : Surroundings} {c c' : Cursor}
    {code : List Instruction} (h : x.lower sur c = .ok (code, c')) :
    c'.bindings = x.declaration?.toList ++ c.bindings := by
  cases hx : x.isBracket with
  | false => exact (becomes_of_lower hx h).bindings
  | true =>
    cases x with
    | branch b =>
      obtain ⟨⟨i, temps⟩, -, hret⟩ := bind_eq_ok h
      cases hret
      rfl
    | loop kind body bodySpan span =>
      obtain ⟨r, -, hrest⟩ := bind_eq_ok h
      split at hrest
      · obtain ⟨args, -, hrest⟩ := bind_eq_ok hrest
        obtain ⟨⟨body', temps⟩, -, hret⟩ := bind_eq_ok hrest
        cases hret
        rfl
      · obtain ⟨⟨body', temps⟩, -, hrest⟩ := bind_eq_ok hrest
        obtain ⟨i, -, hret⟩ := bind_eq_ok hrest
        cases hret
        rfl
    | _ => cases hx

theorem Statement.names_of_lower {x : Statement} {sur : Surroundings} {c c' : Cursor}
    {code : List Instruction} (h : x.lower sur c = .ok (code, c')) :
    c'.bindings.map Prod.fst = x.declares ++ c.bindings.map Prod.fst := by
  have hdeclares : x.declaration?.toList.map Prod.fst = x.declares := by
    cases x <;> rfl
  rw [bindings_of_lower h, List.map_append, hdeclares]

section

variable {s : Script} {names : List String} {inLoop : Bool}

/-- A statement with a condition is as sound as the condition. -/
theorem Place.sound_iff_of_condition {x : Statement} {c : Condition} (hc : x.condition? = some c)
    (hexprs : x.exprs = c.exprs) (huse : x.use? = c.use?) :
    Place.Sound s ⟨names, inLoop, x⟩ ↔ c.Sound names := by
  have hcalls : x.calls = c.call?.toList := by
    cases x with
    | action => cases hc
    | _ =>
      rw [Statement.calls, hc, Option.bind_some]
      simp
  rw [Place.sound_iff, hexprs, huse, hcalls]
  simp only [Option.mem_toList]
  constructor
  · rintro ⟨hexprs, huse, -, htargets, hcontrol, -⟩
    exact ⟨hexprs, fun call => hcontrol c call hc, htargets, huse⟩
  · intro h
    refine ⟨h.exprs, h.use, ?_, h.target, ?_, ?_, ?_, ?_⟩
    · rintro target op e span rfl
      cases hc
    · intro c' call hc' hcall
      obtain rfl : c = c' := Option.some.inj (hc.symm.trans hc')
      exact h.notControl call hcall
    · rintro name args span rfl
      cases hc
    · rintro name span rfl
      cases hc
    · rintro span (rfl | rfl) <;> cases hc

theorem Place.sound_exit {x : Statement} (hx : (∃ span, x = .stop span) ∨ ∃ span, x = .skip span) :
    Place.Sound s ⟨names, inLoop, x⟩ ↔ inLoop = true := by
  rw [Place.sound_iff]
  rcases hx with ⟨span, rfl⟩ | ⟨span, rfl⟩ <;>
    simp [Statement.exprs, Statement.use?, Statement.calls, Statement.condition?]

/-- A statement without bodies is the only place in it. -/
theorem Statement.places_of_simple {x : Statement} (hx : x.isBracket = false) :
    x.places names inLoop = [⟨names, inLoop, x⟩] := by
  cases x with
  | branch b => cases hx
  | loop kind body bodySpan span => cases hx
  | _ => rw [places] <;> simp

theorem Otherwise.places_of_body? {o : Otherwise} {ys : List Statement} (h : o.body? = some ys) :
    o.places names inLoop = Statement.placesAll names inLoop ys := by
  cases o with
  | nothing => cases h
  | block body span =>
    cases h
    rw [places]
  | branch b =>
    cases h
    rw [places, Statement.placesAll, Statement.placesAll, Statement.places, List.append_nil]

end

section

variable {s : Script} {sur : Surroundings} {c : Cursor}

theorem Statement.succeeds_simple (hd : sur.definitions.Of s) {x : Statement}
    (hx : x.isBracket = false) :
    Succeeds (x.lower sur c) ↔ Place.Sound s ⟨c.bindings.map Prod.fst, sur.inLoop, x⟩ := by
  cases x with
  | action a =>
    refine succeeds_bind_pure.trans (ActionCall.succeeds_lower.trans ?_)
    rw [Place.sound_iff]
    constructor
    · rintro ⟨htarget, hargs, hfits⟩
      refine ⟨hargs, ?_, by simp, ?_, by simp [Statement.condition?], by simp, by simp, by simp⟩
      · simpa [Statement.use?] using hfits
      · simpa [Statement.calls] using htarget
    · rintro ⟨hargs, huse, -, htargets, -⟩
      exact ⟨htargets a (by simp [Statement.calls]), hargs, huse _ rfl⟩
  | declare v value span =>
    cases value with
    | none =>
      refine iff_of_true (succeeds_ok _) ?_
      rw [Place.sound_iff]
      simp [Statement.exprs, Statement.use?, Statement.calls, Statement.condition?]
    | some e =>
      have hsteps : Succeeds ((Statement.declare v (some e) span).lower sur c) ↔
          e.Sound (c.bindings.map Prod.fst) ∧ (AssignOp.set.use e.kind).Fits := by
        rw [← Expr.succeeds_lower (k := c.temps)]
        refine succeeds_bind_iff fun r hr => ?_
        rw [succeeds_bind_pure, ← Expr.kind_of_lower hr]
        exact succeeds_assignment .set rfl
      rw [hsteps, Place.sound_iff]
      simp [Statement.exprs, Statement.use?, Statement.calls, Statement.condition?]
  | assign target op e span =>
    have hsteps : Succeeds ((Statement.assign target op e span).lower sur c) ↔
        target.Resolves (c.bindings.map Prod.fst) ∧ e.Sound (c.bindings.map Prod.fst) ∧
          (op.use e.kind).Fits := by
      rw [← VarRef.succeeds_resolve]
      refine succeeds_bind_iff fun t ht => ?_
      rw [← Expr.succeeds_lower (k := c.temps)]
      refine succeeds_bind_iff fun r hr => ?_
      rw [succeeds_bind_pure, ← Expr.kind_of_lower hr]
      exact succeeds_assignment op (VarRef.kind_of_resolve ht)
    rw [hsteps, Place.sound_iff]
    constructor
    · rintro ⟨htarget, he, hfits⟩
      refine ⟨by simpa [Statement.exprs] using he, by simpa [Statement.use?] using hfits, ?_, ?_⟩
      · rintro _ _ _ _ ⟨⟩
        exact htarget
      · simp [Statement.calls, Statement.condition?]
    · rintro ⟨hexprs, huse, htarget, -⟩
      exact ⟨htarget _ _ _ _ rfl, hexprs e (by simp [Statement.exprs]), huse _ rfl⟩
  | branch b => cases hx
  | loop kind body bodySpan span => cases hx
  | call name args span =>
    have hsound : Place.Sound s ⟨c.bindings.map Prod.fst, sur.inLoop, .call name args span⟩ ↔
        (∀ e ∈ args, e.Sound (c.bindings.map Prod.fst)) ∧
          sur.definitions.arity? name.name = some args.length := by
      rw [Place.sound_iff, hd.arity]
      simp [Statement.exprs, Statement.use?, Statement.calls, Statement.condition?]
    rw [hsound, Statement.lower]
    split
    · rename_i hnone
      simp [hnone]
    · rename_i arity harity
      rw [harity]
      split
      · rename_i hne
        refine iff_of_false (not_succeeds_error _) fun h => hne ?_
        exact (Option.some.inj h.2).symm
      · rename_i heq
        refine succeeds_bind_pure.trans (Expr.succeeds_lowerAll.trans ?_)
        exact (and_iff_left (congrArg some (not_not.mp heq).symm)).symm
  | start name span =>
    have hsound : Place.Sound s ⟨c.bindings.map Prod.fst, sur.inLoop, .start name span⟩ ↔
        name.name ∈ sur.definitions.processes := by
      rw [Place.sound_iff, hd.processes]
      simp [Statement.exprs, Statement.use?, Statement.calls, Statement.condition?]
    rw [hsound, Statement.lower]
    split <;> simp [*]
  | wait duration tags span =>
    cases duration with
    | none =>
      refine succeeds_bind_pure.trans (succeeds_controlAction.trans ?_)
      rw [Place.sound_iff]
      simp [Statement.exprs, Statement.use?, Statement.calls, Statement.condition?]
    | some e =>
      have hsteps : Succeeds ((Statement.wait (some e) tags span).lower sur c) ↔
          e.Sound (c.bindings.map Prod.fst) ∧ (Use.mk .control "Wait" [e.kind] tags).Fits := by
        rw [← Expr.succeeds_lower (k := c.temps)]
        refine succeeds_bind_iff fun r hr => ?_
        rw [succeeds_bind_pure, ← Expr.kind_of_lower hr]
        exact succeeds_controlAction
      rw [hsteps, Place.sound_iff]
      simp [Statement.exprs, Statement.use?, Statement.calls, Statement.condition?]
  | leave span =>
    refine succeeds_bind_pure.trans (iff_of_true (succeeds_controlAction.mpr ?_) ?_)
    · split <;> exact fits_of_plain rfl
    · rw [Place.sound_iff]
      simp [Statement.exprs, Statement.use?, Statement.calls, Statement.condition?]
  | stop span =>
    rw [Place.sound_exit (Or.inl ⟨span, rfl⟩), Statement.lower]
    split
    · refine succeeds_bind_pure.trans (iff_of_true (succeeds_controlAction.mpr ?_) ‹_›)
      exact fits_of_plain rfl
    · exact iff_of_false (not_succeeds_error _) ‹_›
  | skip span =>
    rw [Place.sound_exit (Or.inr ⟨span, rfl⟩), Statement.lower]
    split
    · refine succeeds_bind_pure.trans (iff_of_true (succeeds_controlAction.mpr ?_) ‹_›)
      exact fits_of_plain rfl
    · exact iff_of_false (not_succeeds_error _) ‹_›

/-- Lowering a body succeeds exactly when nothing is wrong with its places. -/
def Statement.AcceptsBody (s : Script) (sur : Surroundings) (xs : List Statement) : Prop :=
  ∀ c : Cursor, Succeeds (lowerAll xs sur c) ↔
    ∀ y ∈ placesAll (c.bindings.map Prod.fst) sur.inLoop xs, y.Sound s

theorem Statement.succeeds_cons {x : Statement} {xs : List Statement}
    (hx : Succeeds (x.lower sur c) ↔
      ∀ y ∈ x.places (c.bindings.map Prod.fst) sur.inLoop, y.Sound s)
    (hxs : AcceptsBody s sur xs) :
    Succeeds (lowerAll (x :: xs) sur c) ↔
      ∀ y ∈ placesAll (c.bindings.map Prod.fst) sur.inLoop (x :: xs), y.Sound s := by
  rw [placesAll, List.forall_mem_append, ← hx]
  refine succeeds_bind_iff fun r hr => ?_
  obtain ⟨code, c'⟩ := r
  rw [← names_of_lower hr]
  exact succeeds_bind_pure.trans (hxs c')

theorem Otherwise.succeeds_lower {o : Otherwise}
    (h : ∀ ys, o.body? = some ys → Statement.AcceptsBody s sur ys) :
    Succeeds (o.lower sur c) ↔
      ∀ y ∈ o.places (c.bindings.map Prod.fst) sur.inLoop, y.Sound s := by
  cases hys : o.body? with
  | none =>
    obtain rfl := eq_nothing hys
    exact iff_of_true (succeeds_ok _) (by simp [places])
  | some ys =>
    rw [lower_of_body? hys, places_of_body? hys]
    exact succeeds_bind_pure.trans (h ys hys c)

theorem Branch.succeeds_lower {condition : Condition} {body : List Statement}
    {bodySpan span : Span} {other : Otherwise} (hbody : Statement.AcceptsBody s sur body)
    (hother : ∀ ys, other.body? = some ys → Statement.AcceptsBody s sur ys) :
    Succeeds ((Branch.mk condition body bodySpan other span).lower sur c) ↔
      ∀ y ∈ (Branch.mk condition body bodySpan other span).places (c.bindings.map Prod.fst)
        sur.inLoop, y.Sound s := by
  rw [places, List.forall_mem_cons, List.forall_mem_append,
    Place.sound_iff_of_condition (c := condition) rfl rfl rfl,
    ← Condition.succeeds_lower (k := c.temps)]
  refine succeeds_bind_iff fun r _ => ?_
  rw [← hbody ⟨c.bindings, r.temps⟩]
  refine succeeds_bind_iff fun body' _ => ?_
  exact succeeds_bind_pure.trans (Otherwise.succeeds_lower hother)

theorem Statement.succeeds_loop {kind : LoopKind} {body : List Statement} {bodySpan span : Span}
    (hbody : AcceptsBody s { sur with inLoop := true } body) :
    Succeeds ((Statement.loop kind body bodySpan span).lower sur c) ↔
      ∀ y ∈ (Statement.loop kind body bodySpan span).places (c.bindings.map Prod.fst) sur.inLoop,
        y.Sound s := by
  rw [places, List.forall_mem_cons]
  cases hkind : kind.condition? with
  | none =>
    have hsound :
        Place.Sound s ⟨c.bindings.map Prod.fst, sur.inLoop, .loop kind body bodySpan span⟩ ↔
          (∀ e ∈ kind.exprs, e.Sound (c.bindings.map Prod.fst)) ∧
            ∀ u, kind.use? = some u → u.Fits := by
      rw [Place.sound_iff]
      simp [Statement.exprs, Statement.use?, Statement.calls, Statement.condition?, hkind]
    rw [hsound, and_assoc, ← LoopKind.succeeds_lower (k := c.temps) hkind]
    refine succeeds_bind_iff fun r hr => ?_
    obtain ⟨name, vs, hparts, hresult⟩ := LoopKind.parts_of_lower hkind hr
    rw [hresult, hparts.fits_iff span, ← kind.names_entry, ← List.map_append]
    refine succeeds_bind_iff fun args' _ => succeeds_bind_pure.trans ?_
    exact hbody _
  | some condition =>
    cases kind with
    | whilst c' =>
      rw [Place.sound_iff_of_condition (c := c') rfl rfl rfl,
        ← Condition.succeeds_lower (k := c.temps)]
      have hhead : Succeeds ((LoopKind.whilst c').lower c.bindings c.temps) ↔
          Succeeds (c'.lower c.bindings c.temps) := succeeds_bind_pure
      rw [← hhead]
      refine succeeds_bind_iff fun r hr => ?_
      obtain ⟨r', -, hret⟩ := bind_eq_ok hr
      cases hret
      -- the loop around the body is always right
      refine Iff.trans (succeeds_bind_iff (P := True) fun body' _ => ?_) ?_
      · exact succeeds_bind_pure.trans (iff_of_true succeeds_conditionLoop trivial)
      · rw [and_true]
        exact hbody _
    | _ => cases hkind

theorem Statement.acceptsBody (hd : sur.definitions.Of s) (xs : List Statement) :
    AcceptsBody s sur xs := by
  induction xs using Statement.body_induction generalizing sur with
  | nil => exact fun c => iff_of_true (succeeds_ok _) (by simp [placesAll])
  | simple x xs hx ih =>
    refine fun c => succeeds_cons ?_ (ih hd)
    rw [places_of_simple hx, List.forall_mem_singleton]
    exact succeeds_simple hd hx
  | branch condition body bodySpan other span xs ihbody ihother ih =>
    refine fun c => succeeds_cons ?_ (ih hd)
    rw [places]
    exact succeeds_bind_pure.trans
      (Branch.succeeds_lower (ihbody hd) fun ys hys => ihother ys hys hd)
  | loop kind body bodySpan span xs ihbody ih =>
    exact fun c => succeeds_cons (succeeds_loop (ihbody hd)) (ih hd)

theorem Item.succeeds_lower {d : Definitions} (hd : d.Of s) {item : Item} :
    Succeeds (item.lower d) ↔ ∀ x ∈ item.places, x.Sound s := by
  cases item with
  | event kind name body _ _ | process name body _ _ =>
    exact succeeds_bind_pure.trans (Statement.acceptsBody hd body _)
  | function name params body _ _ =>
    refine succeeds_bind_pure.trans ((Statement.acceptsBody hd body _).trans ?_)
    rw [Item.places, Item.params, List.map_reverse, List.map_map, List.map_map]
    rfl

end

end Script

/-- A script can be lowered if and only if it is well-formed. -/
theorem lower_succeeds_iff_wellFormed (s : Script) : (∃ P, s.lower = .ok P) ↔ s.WellFormed := by
  have hitems : ∀ d, s.definitions = .ok d →
      (Succeeds (s.items.mapM (Item.lower d)) ↔
        ∀ item ∈ s.items, ∀ x ∈ item.places, x.Sound s) := by
    intro d hd
    rw [succeeds_mapM_iff]
    exact forall₂_congr fun item _ => Item.succeeds_lower (definitions_of hd)
  have hsteps : Succeeds s.lower ↔ Succeeds s.definitions ∧
      ∀ item ∈ s.items, ∀ x ∈ item.places, x.Sound s :=
    succeeds_bind_iff fun d hd => succeeds_bind_pure.trans (hitems d hd)
  refine hsteps.trans ?_
  rw [succeeds_definitions]
  constructor
  · rintro ⟨⟨hevents, hdistinct⟩, hplaces⟩
    exact ⟨hevents, hdistinct, hplaces⟩
  · intro h
    exact ⟨⟨h.events, h.distinct⟩, h.places⟩

end Plotline
