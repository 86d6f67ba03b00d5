import Mathlib.Logic.Function.Basic
import Plotline.Proofs.General
import Plotline.Proofs.Lowering.Acceptance

/-!
# Arithmetic in temporaries

An expression with operations is lowered to a chain of assignments, one for each operation, and the
value that stands for its result. This module says what such a chain is and that it computes the
expression.

`Expr.eval` is the value of an expression, read off its tree. `Instruction.assign` is the effect of
an assignment of two operands on a store. Both take the meaning of the operations and of the values
other than variables from an `Interpretation`, which may be any.

* `Chain`: the shape of the lowered code. The assignments follow the operations from the leaves up,
  write temporaries with successive numbers, and read every temporary but the last once, behind the
  assignment that writes it.
* `Expr.run_lower`: running the chain gives the value of the expression and changes nothing but the
  temporaries of the chain.

Both need that the expression itself does not mention the temporaries of the chain (`Expr.Avoids`):
`__tmp0` is a name that a script may use as well.
-/

namespace Plotline

open Script

/-! ## Temporaries -/

theorem temporary_inj {n m : Nat} (h : temporary n = temporary m) : n = m := by
  simp only [temporary, Value.var, Value.variable.injEq, Variable.mk.injEq, and_true] at h
  have hdigits := congrArg String.toList h
  rw [String.toList_append, String.toList_append, List.append_cancel_left_eq] at hdigits
  exact eq_of_toString hdigits

/-! ## What expressions mean -/

/-- The values of all variables. -/
abbrev Store (α : Type) := Variable → α

/-- What the operations mean, and the values that are no variables. -/
structure Interpretation (α : Type) where
  value : Value → α
  operation : BinaryOp → α → α → α

namespace Interpretation

variable {α : Type}

/-- What a value stands for: a variable for what the store has for it. -/
def read (I : Interpretation α) (s : Store α) : Value → α
  | .variable v => s v
  | v => I.value v

end Interpretation

namespace Script.Expr

variable {α : Type}

/-- The value of an expression. There is none when a variable is not declared, a selector is not
known or a constant is out of range. -/
def eval (b : Bindings) (I : Interpretation α) (s : Store α) : Expr → Except LoweringError α
  | .constant c span => (c.value span).map I.value
  | .variable v _ => (v.resolve b).map (I.read s)
  | .gameValue name none _ => .ok (I.value (.gameValue ⟨name.name, .default⟩))
  | .gameValue name (some target) _ =>
    target.selector.map fun t => I.value (.gameValue ⟨name.name, t⟩)
  | .binary op lhs rhs _ => do
    let x ← eval b I s lhs
    let y ← eval b I s rhs
    return I.operation op x y

/-- The operations of an expression, those of the operands before the one that joins them. -/
def operations : Expr → List BinaryOp
  | .binary op lhs rhs _ => lhs.operations ++ rhs.operations ++ [op]
  | _ => []

/-- The variables that an expression mentions. -/
def references (e : Expr) : List VarRef := e.parts.filterMap reference?

/-- The expression mentions no temporary with a number from `low` up to, but not including,
`high`. -/
def Avoids (b : Bindings) (low high : Nat) (e : Expr) : Prop :=
  ∀ v ∈ e.references, ∀ i, low ≤ i → i < high → v.resolve b ≠ .ok (temporary i)

end Script.Expr

/-! ## What assignments do -/

/-- The operation that an action on variables computes. -/
def Script.BinaryOp.ofAction? : String → Option BinaryOp
  | "+" => some .add
  | "-" => some .sub
  | "x" => some .mul
  | "/" => some .div
  | "%" => some .mod
  | _ => none

namespace Instruction

variable {α : Type}

/-- The store after an action that assigns the result of an operation on two operands. -/
def assign (I : Interpretation α) (s : Store α) : Instruction → Option (Store α)
  | .action ⟨.setVar, name, [.variable x, lhs, rhs], none⟩ =>
    (BinaryOp.ofAction? name).map fun op =>
      Function.update s x (I.operation op (I.read s lhs) (I.read s rhs))
  | _ => none

/-- The store after assignments, one after the other. -/
def assignAll (I : Interpretation α) (s : Store α) (is : List Instruction) : Option (Store α) :=
  is.foldlM (assign I) s

end Instruction

/-! ## Chains -/

/-- An operation and the values of its operands. -/
structure Computation where
  op : BinaryOp
  lhs : Value
  rhs : Value

namespace Computation

/-- The action that computes the temporary with the given number. -/
def instruction (c : Computation) (n : Nat) : Instruction :=
  .action { block := .setVar, name := c.op.action, args := [temporary n, c.lhs, c.rhs] }

/-- The values that computations read. -/
def reads (cs : List Computation) : List Value := cs.flatMap fun c => [c.lhs, c.rhs]

/-- The actions of computations that write temporaries from the number `k` on. -/
def chain (k : Nat) : List Computation → List Instruction
  | [] => []
  | c :: cs => c.instruction k :: chain (k + 1) cs

theorem chain_append (k : Nat) (cs ds : List Computation) :
    chain k (cs ++ ds) = chain k cs ++ chain (k + cs.length) ds := by
  induction cs generalizing k with
  | nil => rfl
  | cons c cs ih =>
    rw [List.cons_append, chain, chain, ih, List.length_cons, List.cons_append]
    congr 3
    omega

theorem reads_append (cs ds : List Computation) : reads (cs ++ ds) = reads cs ++ reads ds :=
  List.flatMap_append

theorem reads_nil : reads [] = [] := rfl

theorem reads_singleton (c : Computation) : reads [c] = [c.lhs, c.rhs] := rfl

/-- Every temporary but the last is read once, behind the computation that writes it; the last one
is not read. -/
structure ReadOnce (k : Nat) (cs : List Computation) : Prop where
  before : ∀ j < cs.length, temporary (k + j) ∉ reads (cs.take (j + 1))
  behind : ∀ j, j + 1 < cs.length → (reads (cs.drop (j + 1))).count (temporary (k + j)) = 1

section

/-! Two chains and the operation `c` on their results. Neither chain reads a temporary of the other
one, nor the result of the operation. -/

variable {k : Nat} {cs ds : List Computation} {c : Computation}

theorem before_join (hcs : ReadOnce k cs) (hds : ReadOnce (k + cs.length) ds)
    (hleft : ∀ v ∈ c.lhs :: reads cs, ∀ j ≤ ds.length, v ≠ temporary (k + cs.length + j))
    (hright : ∀ v ∈ c.rhs :: reads ds, v ≠ temporary (k + cs.length + ds.length)) {j : Nat}
    (hj : j < (cs ++ ds ++ [c]).length) :
    temporary (k + j) ∉ reads ((cs ++ ds ++ [c]).take (j + 1)) := by
  simp only [List.length_append, List.length_singleton] at hj
  rcases Nat.lt_or_ge j cs.length with hjcs | hjcs
  · rw [List.append_assoc, List.take_append_of_le_length hjcs]
    exact hcs.before j hjcs
  · obtain ⟨i, rfl⟩ := Nat.exists_eq_add_of_le hjcs
    rw [← Nat.add_assoc]
    have hnotcs : temporary (k + cs.length + i) ∉ reads cs := by
      intro hmem
      exact hleft _ (List.mem_cons_of_mem _ hmem) i (by omega) rfl
    rcases Nat.lt_or_ge i ds.length with hi | hi
    · have htake : (cs ++ ds ++ [c]).take (cs.length + i + 1) = cs ++ ds.take (i + 1) := by
        rw [List.append_assoc, Nat.add_assoc, List.take_length_add_append,
          List.take_append_of_le_length hi]
      rw [htake, reads_append, List.mem_append, not_or]
      exact ⟨hnotcs, hds.before i hi⟩
    · obtain rfl : i = ds.length := by omega
      have hnotds : temporary (k + cs.length + ds.length) ∉ reads ds := by
        intro hmem
        exact hright _ (List.mem_cons_of_mem _ hmem) rfl
      have hlhs := hleft c.lhs List.mem_cons_self ds.length (Nat.le_refl _)
      have hrhs := hright c.rhs List.mem_cons_self
      rw [List.take_of_length_le (by simp; omega), reads_append, reads_append,
        List.mem_append, List.mem_append]
      simp [reads_singleton, hnotcs, hnotds, hlhs.symm, hrhs.symm]

theorem behind_join (hcs : ReadOnce k cs) (hds : ReadOnce (k + cs.length) ds)
    (hlhs : ∀ n, cs.length = n + 1 → c.lhs = temporary (k + n))
    (hrhs : ∀ n, ds.length = n + 1 → c.rhs = temporary (k + cs.length + n))
    (hleft : ∀ j < ds.length, c.lhs ≠ temporary (k + cs.length + j))
    (hright : ∀ v ∈ c.rhs :: reads ds, ∀ j < cs.length, v ≠ temporary (k + j)) {j : Nat}
    (hj : j + 1 < (cs ++ ds ++ [c]).length) :
    (reads ((cs ++ ds ++ [c]).drop (j + 1))).count (temporary (k + j)) = 1 := by
  simp only [List.length_append, List.length_singleton] at hj
  rcases Nat.lt_or_ge j cs.length with hjcs | hjcs
  · have hnotds : (reads ds).count (temporary (k + j)) = 0 := by
      rw [List.count_eq_zero]
      intro hmem
      exact hright _ (List.mem_cons_of_mem _ hmem) j hjcs rfl
    have hnotrhs := hright c.rhs List.mem_cons_self j hjcs
    rw [List.append_assoc, List.drop_append_of_le_length hjcs, reads_append, reads_append,
      List.count_append, List.count_append, hnotds]
    by_cases hlast : j + 1 < cs.length
    · have hnotlhs : c.lhs ≠ temporary (k + j) := by
        rw [hlhs (cs.length - 1) (by omega)]
        intro heq
        have := temporary_inj heq
        omega
      rw [hcs.behind j hlast]
      simp [reads_singleton, hnotlhs, hnotrhs]
    · have hislhs : c.lhs = temporary (k + j) := hlhs j (by omega)
      rw [List.drop_of_length_le (by omega)]
      simp [reads_nil, reads_singleton, hislhs, hnotrhs]
  · obtain ⟨i, rfl⟩ := Nat.exists_eq_add_of_le hjcs
    have hi : i < ds.length := by omega
    have hnotlhs := hleft i hi
    rw [List.append_assoc, Nat.add_assoc, List.drop_length_add_append,
      List.drop_append_of_le_length hi, reads_append, List.count_append, ← Nat.add_assoc]
    by_cases hlast : i + 1 < ds.length
    · have hnotrhs : c.rhs ≠ temporary (k + cs.length + i) := by
        rw [hrhs (ds.length - 1) (by omega)]
        intro heq
        have := temporary_inj heq
        omega
      rw [hds.behind i hlast]
      simp [reads_singleton, hnotlhs, hnotrhs]
    · have hisrhs : c.rhs = temporary (k + cs.length + i) := hrhs i (by omega)
      rw [List.drop_of_length_le (by omega)]
      simp [reads_nil, reads_singleton, hnotlhs, hisrhs]

end

end Computation

open Plotline.Computation

/-- The code and the result of an expression that is lowered when the next temporary has the number
`k`, as computations. -/
structure Chain (e : Expr) (k : Nat) (r : Lowered Value) (cs : List Computation) : Prop where
  code : r.code = chain k cs
  operations : cs.map Computation.op = e.operations
  temps : r.temps = k + cs.length
  once : ReadOnce k cs
  /-- The result is the temporary of the last operation. -/
  result : ∀ n, cs.length = n + 1 → r.result = temporary (k + n)

/-- A value in the code of an expression: a variable that it mentions, one of the temporaries from
`k` up to `k'`, or no variable. -/
def Operand (b : Bindings) (e : Expr) (k k' : Nat) (v : Value) : Prop :=
  (∃ ref ∈ e.references, ref.resolve b = .ok v) ∨ (∃ i, k ≤ i ∧ i < k' ∧ v = temporary i) ∨
    v.kind ≠ .variable

section

variable {b : Bindings} {e : Expr} {k k' : Nat} {v : Value}

theorem Operand.ne_temporary (h : Operand b e k k' v) {i : Nat} (hrange : i < k ∨ k' ≤ i)
    (havoid : e.Avoids b i (i + 1)) : v ≠ temporary i := by
  rintro rfl
  rcases h with ⟨ref, href, hresolve⟩ | ⟨n, hlow, hhigh, hn⟩ | hkind
  · exact havoid ref href i (Nat.le_refl i) (Nat.lt_succ_self i) hresolve
  · have := temporary_inj hn
    omega
  · exact hkind rfl

theorem Operand.mono {e' : Expr} {j j' : Nat} (h : Operand b e k k' v)
    (href : ∀ ref ∈ e.references, ref ∈ e'.references) (hlow : j ≤ k) (hhigh : k' ≤ j') :
    Operand b e' j j' v := by
  rcases h with ⟨ref, hmem, hresolve⟩ | ⟨i, hi, hi', rfl⟩ | hkind
  · exact Or.inl ⟨ref, href ref hmem, hresolve⟩
  · exact Or.inr (Or.inl ⟨i, by omega, by omega, rfl⟩)
  · exact Or.inr (Or.inr hkind)

end

namespace Script.Expr

variable {b : Bindings}

theorem references_binary (op : BinaryOp) (lhs rhs : Expr) (span : Span) :
    (Expr.binary op lhs rhs span).references = lhs.references ++ rhs.references := by
  rw [references, parts, List.filterMap_cons_none rfl, List.filterMap_append]
  rfl

theorem Avoids.mono {e e' : Expr} {low high low' high' : Nat} (h : e.Avoids b low high)
    (href : ∀ ref ∈ e'.references, ref ∈ e.references) (hlow : low ≤ low') (hhigh : high' ≤ high) :
    e'.Avoids b low' high' := by
  intro v hv i hi hi'
  exact h v (href v hv) i (by omega) (by omega)

/-- An expression without an operation is lowered to what it means. -/
theorem operand_of_leaf {e : Expr} (hleaf : e.use? = none) {k : Nat} {r : Lowered Value}
    (h : e.lower b k = .ok r) :
    Operand b e k k r.result ∧ ∀ {α : Type} (I : Interpretation α) (s : Store α),
      e.eval b I s = .ok (I.read s r.result) := by
  cases e with
  | constant c span =>
    obtain ⟨v, hv, hret⟩ := bind_eq_ok h
    cases hret
    have hkind : v.kind ≠ .variable := by
      rw [Constant.kind_of_value hv]
      cases c <;> simp [Constant.kind]
    refine ⟨Or.inr (Or.inr hkind), fun I s => ?_⟩
    rw [eval, hv]
    cases v with
    | «variable» v => exact absurd rfl hkind
    | _ => rfl
  | «variable» v span =>
    obtain ⟨x, hx, hret⟩ := bind_eq_ok h
    cases hret
    refine ⟨Or.inl ⟨v, by simp [references, parts, reference?], hx⟩, fun I s => ?_⟩
    rw [eval, hx]
    rfl
  | gameValue name target span =>
    cases target with
    | none =>
      cases h
      exact ⟨Or.inr (Or.inr (by simp [Value.kind])), fun I s => rfl⟩
    | some i =>
      obtain ⟨t, ht, hret⟩ := bind_eq_ok h
      cases hret
      refine ⟨Or.inr (Or.inr (by simp [Value.kind])), fun I s => ?_⟩
      rw [eval, ht]
      rfl
  | binary op lhs rhs span => cases hleaf

theorem temps_of_lower {e : Expr} {k : Nat} {r : Lowered Value} (h : e.lower b k = .ok r) :
    r.temps = k + e.operations.length := by
  induction e generalizing k r with
  | binary op lhs rhs span ihl ihr =>
    obtain ⟨l, r', i, hl, hr, -, rfl⟩ := binary_of_lower h
    simp only [operations, List.length_append, List.length_singleton, ihr hr, ihl hl]
    omega
  | _ => exact (leaf_of_lower rfl h).2

/-- The action of an operation has no tags. -/
theorem setVariable_operation {op : BinaryOp} {result lhs rhs : Value} {span : Span}
    {i : Instruction} (h : setVariable op.action [result, lhs, rhs] span = .ok i) :
    i = .action { block := .setVar, name := op.action, args := [result, lhs, rhs] } := by
  obtain ⟨args, hargs, rfl⟩ := plainAction_eq_ok h
  obtain ⟨s, hs, -, rfl⟩ := completeArgs_eq_ok hargs
  have htags : s.tags = [] := by
    cases op <;>
    · cases hs
      rfl
  simp [tagValues, htags]

/-- An expression is lowered to a chain, and the chain reads nothing but what the expression
mentions and its own temporaries. -/
theorem chain_of_lower {e : Expr} {k : Nat} {r : Lowered Value} (h : e.lower b k = .ok r)
    (havoid : e.Avoids b k r.temps) :
    ∃ cs, Chain e k r cs ∧ ∀ v ∈ r.result :: reads cs, Operand b e k r.temps v := by
  induction e generalizing k r with
  | binary op lhs rhs span ihl ihr =>
    obtain ⟨l, r', i, hl, hr, hi, rfl⟩ := binary_of_lower h
    obtain rfl := setVariable_operation hi
    have hkl := temps_of_lower hl
    have hlr := temps_of_lower hr
    have hrefl : ∀ ref ∈ lhs.references, ref ∈ (binary op lhs rhs span).references := by
      simp +contextual [references_binary]
    have hrefr : ∀ ref ∈ rhs.references, ref ∈ (binary op lhs rhs span).references := by
      simp +contextual [references_binary]
    dsimp only at havoid ⊢
    obtain ⟨cs, hcs, hreadl⟩ := ihl hl (havoid.mono hrefl (by omega) (by omega))
    obtain ⟨ds, hds, hreadr⟩ := ihr hr (havoid.mono hrefr (by omega) (by omega))
    have htemps : r'.temps = k + cs.length + ds.length := by rw [hds.temps, hcs.temps]
    have hnotl : ∀ v ∈ l.result :: reads cs, ∀ j ≤ ds.length,
        v ≠ temporary (k + cs.length + j) := by
      intro v hv j hj
      have hrange := hcs.temps
      exact (hreadl v hv).ne_temporary (by omega) (havoid.mono hrefl (by omega) (by omega))
    have hnotr : ∀ v ∈ r'.result :: reads ds, ∀ i, k ≤ i → i < k + cs.length ∨ i = r'.temps →
        v ≠ temporary i := by
      intro v hv i hlow hhigh
      have hrange := hcs.temps
      exact (hreadr v hv).ne_temporary (by omega) (havoid.mono hrefr (by omega) (by omega))
    have honce := hds.once
    have hresult := hds.result
    rw [hcs.temps] at honce hresult
    refine ⟨cs ++ ds ++ [⟨op, l.result, r'.result⟩], ?_, ?_⟩
    · constructor
      · rw [chain_append, chain_append, ← hcs.code, ← hcs.temps, ← hds.code, List.length_append,
          ← Nat.add_assoc, ← htemps]
        rfl
      · simp [hcs.operations, hds.operations, operations]
      · simp [htemps, Nat.add_assoc]
      · constructor
        · intro j hj
          refine before_join hcs.once honce hnotl ?_ hj
          intro v hv
          exact hnotr v hv _ (by omega) (Or.inr htemps.symm)
        · intro j hj
          refine behind_join hcs.once honce hcs.result hresult ?_ ?_ hj
          · intro i hi
            exact hnotl _ List.mem_cons_self i (by omega)
          · intro v hv i hi
            exact hnotr v hv _ (by omega) (Or.inl (by omega))
      · intro n hn
        simp only [List.length_append, List.length_singleton] at hn
        exact congrArg temporary (by omega)
    · intro v hv
      simp only [reads_append, reads_singleton, List.mem_cons, List.mem_append, List.not_mem_nil,
        or_false] at hv
      rcases hv with rfl | (hv | hv) | rfl | rfl
      · exact Or.inr (Or.inl ⟨r'.temps, by omega, by omega, rfl⟩)
      · exact (hreadl v (List.mem_cons_of_mem _ hv)).mono hrefl (by omega) (by omega)
      · exact (hreadr v (List.mem_cons_of_mem _ hv)).mono hrefr (by omega) (by omega)
      · exact (hreadl _ List.mem_cons_self).mono hrefl (by omega) (by omega)
      · exact (hreadr _ List.mem_cons_self).mono hrefr (by omega) (by omega)
  | _ =>
    obtain ⟨hcode, htemps⟩ := leaf_of_lower rfl h
    obtain ⟨hoperand, -⟩ := operand_of_leaf rfl h
    refine ⟨[], ⟨hcode, rfl, htemps, ⟨by simp, by simp⟩, by simp⟩, ?_⟩
    rw [htemps]
    simpa [reads_nil] using hoperand

end Script.Expr

/-! ## Running a chain -/

/-- The stores differ at most in temporaries with numbers from `low` up to, but not including,
`high`. -/
def Store.Frame {α : Type} (low high : Nat) (s s' : Store α) : Prop :=
  ∀ v, (∀ i, low ≤ i → i < high → temporary i ≠ .variable v) → s' v = s v

section

variable {α : Type} {I : Interpretation α} {s s' s'' : Store α}

theorem Store.Frame.refl (low high : Nat) (s : Store α) : Store.Frame low high s s :=
  fun _ _ => rfl

theorem Store.Frame.trans {low middle high : Nat} (h : Store.Frame low middle s s')
    (h' : Store.Frame middle high s' s'') (hlow : low ≤ middle) (hhigh : middle ≤ high) :
    Store.Frame low high s s'' := by
  intro v hv
  have hfirst : s' v = s v := h v fun i hi hi' => hv i hi (by omega)
  have hsecond : s'' v = s' v := h' v fun i hi hi' => hv i (by omega) hi'
  rw [hsecond, hfirst]

theorem Store.Frame.of_update (n : Nat) {x : Variable} (hx : temporary n = .variable x) (a : α) :
    Store.Frame n (n + 1) s (Function.update s x a) := by
  intro v hv
  apply Function.update_of_ne
  rintro rfl
  exact hv n (Nat.le_refl n) (Nat.lt_succ_self n) hx

/-- What the code of an expression reads is the same in stores that differ in other temporaries. -/
theorem Operand.read_eq {b : Bindings} {e : Expr} {k k' low high : Nat} {v : Value}
    (h : Operand b e k k' v) (hframe : Store.Frame low high s s')
    (hrange : ∀ i, low ≤ i → i < high → i < k ∨ k' ≤ i) (havoid : e.Avoids b low high) :
    I.read s' v = I.read s v := by
  cases v with
  | «variable» x =>
    apply hframe
    intro i hlow hhigh heq
    exact h.ne_temporary (hrange i hlow hhigh) (havoid.mono (fun _ h => h) hlow hhigh) heq.symm
  | _ => rfl

theorem Script.Expr.eval_congr {b : Bindings} {e : Expr} {low high : Nat}
    (hframe : Store.Frame low high s s') (havoid : e.Avoids b low high) :
    e.eval b I s' = e.eval b I s := by
  induction e with
  | constant c span => rfl
  | «variable» v span =>
    rw [eval, eval]
    cases hv : v.resolve b with
    | error err => rfl
    | ok x =>
      have hoperand : Operand b (.variable v span) low low x :=
        Or.inl ⟨v, by simp [references, parts, reference?], hv⟩
      exact congrArg Except.ok (hoperand.read_eq hframe (by omega) havoid)
  | gameValue name target span => cases target <;> rfl
  | binary op lhs rhs span ihl ihr =>
    have hl : lhs.Avoids b low high :=
      havoid.mono (by simp +contextual [references_binary]) (Nat.le_refl _) (Nat.le_refl _)
    have hr : rhs.Avoids b low high :=
      havoid.mono (by simp +contextual [references_binary]) (Nat.le_refl _) (Nat.le_refl _)
    rw [eval, eval, ihl hl, ihr hr]

theorem Instruction.assignAll_append (is js : List Instruction) :
    assignAll I s (is ++ js) = (assignAll I s is).bind fun s' => assignAll I s' js :=
  List.foldlM_append

theorem Instruction.assignAll_singleton (i : Instruction) : assignAll I s [i] = assign I s i := by
  simp [assignAll]

theorem Script.BinaryOp.ofAction?_action (op : BinaryOp) : ofAction? op.action = some op := by
  cases op <;> rfl

theorem Computation.assign_instruction (c : Computation) (n : Nat) :
    ∃ x, temporary n = .variable x ∧ (c.instruction n).assign I s =
      some (Function.update s x (I.operation c.op (I.read s c.lhs) (I.read s c.rhs))) := by
  refine ⟨_, rfl, ?_⟩
  have hop := BinaryOp.ofAction?_action c.op
  simp only [instruction, temporary, Value.var, Instruction.assign, hop, Option.map_some]

/-- Running the code of an expression computes its value and changes its temporaries only. -/
theorem Script.Expr.run_lower {b : Bindings} {e : Expr} {k : Nat} {r : Lowered Value}
    (h : e.lower b k = .ok r) (havoid : e.Avoids b k r.temps) (I : Interpretation α)
    (s : Store α) :
    ∃ x s', e.eval b I s = .ok x ∧ Instruction.assignAll I s r.code = some s' ∧
      I.read s' r.result = x ∧ Store.Frame k r.temps s s' := by
  induction e generalizing k r s with
  | binary op lhs rhs span ihl ihr =>
    obtain ⟨l, r', i, hl, hr, hi, rfl⟩ := binary_of_lower h
    obtain rfl := setVariable_operation hi
    have hkl := temps_of_lower hl
    have hlr := temps_of_lower hr
    dsimp only at havoid ⊢
    have havoidl : ∀ {low high}, k ≤ low → high ≤ r'.temps + 1 → lhs.Avoids b low high :=
      havoid.mono (by simp +contextual [references_binary])
    have havoidr : ∀ {low high}, k ≤ low → high ≤ r'.temps + 1 → rhs.Avoids b low high :=
      havoid.mono (by simp +contextual [references_binary])
    obtain ⟨x, s₁, hx, hrun₁, hread₁, hframe₁⟩ := ihl hl (havoidl (by omega) (by omega)) s
    obtain ⟨y, s₂, hy, hrun₂, hread₂, hframe₂⟩ := ihr hr (havoidr (by omega) (by omega)) s₁
    -- the right operand reads nothing that the code of the left one writes, and the other way round
    have hy' : rhs.eval b I s = .ok y := by
      rw [← hy]
      exact (eval_congr hframe₁ (havoidr (by omega) (by omega))).symm
    obtain ⟨_, -, hoperands⟩ := chain_of_lower hl (havoidl (by omega) (by omega))
    have hx' : I.read s₂ l.result = x := by
      rw [← hread₁]
      refine (hoperands _ List.mem_cons_self).read_eq hframe₂ ?_ (havoidl (by omega) (by omega))
      omega
    obtain ⟨v, hv, hassign⟩ :=
      (Computation.mk op l.result r'.result).assign_instruction (I := I) (s := s₂) r'.temps
    rw [hx', hread₂] at hassign
    refine ⟨I.operation op x y, Function.update s₂ v (I.operation op x y), ?_, ?_, ?_, ?_⟩
    · rw [eval, hx, hy']
      rfl
    · rw [Instruction.assignAll_append, Instruction.assignAll_append, hrun₁, Option.bind_some,
        hrun₂, Option.bind_some, Instruction.assignAll_singleton]
      exact hassign
    · rw [hv]
      exact Function.update_self v _ s₂
    · refine (hframe₁.trans hframe₂ (by omega) (by omega)).trans (.of_update r'.temps hv _) ?_ ?_
      · omega
      · omega
  | _ =>
    obtain ⟨-, heval⟩ := operand_of_leaf rfl h
    exact ⟨_, s, heval I s, by rw [(leaf_of_lower rfl h).1]; rfl, rfl, .refl _ _ _⟩

end

/-- An expression is lowered to a chain of assignments that computes it. -/
theorem lower_preserves_value {b : Bindings} {e : Expr} {k : Nat} {r : Lowered Value}
    (h : e.lower b k = .ok r) (havoid : e.Avoids b k r.temps) :
    (∃ cs, Chain e k r cs) ∧
      ∀ {α : Type} (I : Interpretation α) (s : Store α), ∃ x s', e.eval b I s = .ok x ∧
        Instruction.assignAll I s r.code = some s' ∧ I.read s' r.result = x ∧
        ∀ v, (∀ i, k ≤ i → i < r.temps → temporary i ≠ .variable v) → s' v = s v := by
  constructor
  · obtain ⟨cs, hchain, -⟩ := Expr.chain_of_lower h havoid
    exact ⟨cs, hchain⟩
  · intro α I s
    exact Expr.run_lower h havoid I s

namespace Sample

/-- `(x + y) * (health - __tmp9)`, where `__tmp9` is a variable of the script. -/
def product : Expr :=
  .binary .mul
    (.binary .add (.variable ⟨⟨"x", .unknown⟩, none⟩ .unknown)
      (.variable ⟨⟨"y", .unknown⟩, some .game⟩ .unknown) .unknown)
    (.binary .sub (.gameValue ⟨"health", .unknown⟩ none .unknown)
      (.variable ⟨⟨"__tmp9", .unknown⟩, some .line⟩ .unknown) .unknown)
    .unknown

/-- The computations of `product`. -/
def productChain : List Computation := [
  ⟨.add, .var "x" .line, .var "y" .game⟩,
  ⟨.sub, .gameValue ⟨"health", .default⟩, .var "__tmp9" .line⟩,
  ⟨.mul, temporary 0, temporary 1⟩]

theorem lower_product : product.lower [("x", .line)] 0 =
    .ok ⟨chain 0 productChain, temporary 2, 3⟩ := rfl

theorem product_avoids : product.Avoids [("x", .line)] 0 3 := by
  intro v hv i _ hi
  have hrefs : product.references = [⟨⟨"x", .unknown⟩, none⟩, ⟨⟨"y", .unknown⟩, some .game⟩,
      ⟨⟨"__tmp9", .unknown⟩, some .line⟩] := rfl
  rw [hrefs] at hv
  have hsmall : i = 0 ∨ i = 1 ∨ i = 2 := by omega
  simp only [List.mem_cons, List.not_mem_nil, or_false] at hv
  rcases hv with rfl | rfl | rfl <;> rcases hsmall with rfl | rfl | rfl <;> decide

/-- Whole numbers; the only game value is 20. -/
def integers : Interpretation Int where
  value _ := 20
  operation
    | .add => (· + ·)
    | .sub => (· - ·)
    | .mul => (· * ·)
    | .div => (· / ·)
    | .mod => (· % ·)

def store : Store Int := fun v => if v.name = "x" then 2 else if v.name = "y" then 3 else 6

end Sample

/-- With `x = 2`, `y = 3` and `__tmp9 = 6` the chain leaves `(2 + 3) * (20 - 6)` in its last
temporary, and `__tmp9` as it was. -/
theorem lower_preserves_value_product :
    Sample.product.Avoids [("x", .line)] 0 3 ∧
      ∃ s', Instruction.assignAll Sample.integers Sample.store
          (chain 0 Sample.productChain) = some s' ∧
        Sample.integers.read s' (temporary 2) = 70 ∧ s' ⟨"__tmp9", .line⟩ = 6 := by
  obtain ⟨-, hrun⟩ := lower_preserves_value Sample.lower_product Sample.product_avoids
  obtain ⟨x, s', hx, hs', hread, hframe⟩ := hrun Sample.integers Sample.store
  have hvalue : Sample.product.eval [("x", .line)] Sample.integers Sample.store = .ok 70 := rfl
  have hx70 : x = 70 := Except.ok.inj (hx.symm.trans hvalue)
  refine ⟨Sample.product_avoids, s', hs', hread.trans hx70, ?_⟩
  apply hframe
  intro i _ hi heq
  have := temporary_inj (m := 9) heq
  dsimp only at hi
  omega

end Plotline
