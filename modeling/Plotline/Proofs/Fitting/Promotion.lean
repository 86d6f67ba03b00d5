import Plotline.Proofs.Fitting.Capacity

/-!
# What promotion does

Promotion reads the line variables of templates and then rewrites the templates. Both go through
all places where a value can stand: arguments, heads and setups, at any depth. `Mentions` says what
these places are and `Alike` compares two templates place by place, so that
`promotesShared_of_fit` can say what promotion does without following either of the two ways
through a template:

* no line variable is left in two templates of a unit;
* the names on record are those of the line variables that two templates shared, each once and in
  the order in which they come up;
* these variables get game scope, and nothing else changes.
-/

namespace Plotline

open Instruction

/-! ## Places of values -/

/-- The value stands somewhere in the instruction. -/
inductive Instruction.Mentions (v : Value) : Instruction → Prop
  | action {a : Action} : v ∈ a.args → Mentions v (.action a)
  | call {c : Call} : v ∈ c.args → Mentions v (.call c)
  | head {head : Head} {setup body : List Instruction} {other : Option (List Instruction)} :
    v ∈ head.args → Mentions v (.bracket head setup body other)
  | setup {head : Head} {setup body : List Instruction} {other : Option (List Instruction)}
    {i : Instruction} : i ∈ setup → Mentions v i → Mentions v (.bracket head setup body other)
  | body {head : Head} {setup body : List Instruction} {other : Option (List Instruction)}
    {i : Instruction} : i ∈ body → Mentions v i → Mentions v (.bracket head setup body other)
  | otherwise {head : Head} {setup body rest : List Instruction} {i : Instruction} :
    i ∈ rest → Mentions v i → Mentions v (.bracket head setup body (some rest))

/-- The value stands somewhere in the template. -/
def Template.Mentions (t : Template) (v : Value) : Prop := ∃ i ∈ t.body, i.Mentions v

theorem mem_valuesAll {v : Value} {is : List Instruction} :
    v ∈ valuesAll is ↔ ∃ i ∈ is, v ∈ i.values := by
  induction is with
  | nil => simp [valuesAll]
  | cons i is ih => simp [valuesAll, ih]

mutual

theorem mentions_of_mem_values {v : Value} : ∀ i : Instruction, v ∈ i.values → i.Mentions v
  | .action a, h => .action h
  | .call c, h => .call h
  | .bracket head setup body none, h => by
    rw [values, List.mem_append, List.mem_append] at h
    rcases h with (h | h) | h
    · exact .head h
    · obtain ⟨i, hi, hv⟩ := mentions_of_mem_valuesAll setup h
      exact .setup hi hv
    · obtain ⟨i, hi, hv⟩ := mentions_of_mem_valuesAll body h
      exact .body hi hv
  | .bracket head setup body (some rest), h => by
    rw [values, List.mem_append, List.mem_append, List.mem_append] at h
    rcases h with ((h | h) | h) | h
    · exact .head h
    · obtain ⟨i, hi, hv⟩ := mentions_of_mem_valuesAll setup h
      exact .setup hi hv
    · obtain ⟨i, hi, hv⟩ := mentions_of_mem_valuesAll body h
      exact .body hi hv
    · obtain ⟨i, hi, hv⟩ := mentions_of_mem_valuesAll rest h
      exact .otherwise hi hv

theorem mentions_of_mem_valuesAll {v : Value} : ∀ is : List Instruction, v ∈ valuesAll is →
    ∃ i ∈ is, i.Mentions v
  | [], h => by cases h
  | i :: is, h => by
    rw [valuesAll, List.mem_append] at h
    rcases h with h | h
    · exact ⟨i, List.mem_cons_self, mentions_of_mem_values i h⟩
    · obtain ⟨j, hj, hv⟩ := mentions_of_mem_valuesAll is h
      exact ⟨j, List.mem_cons_of_mem i hj, hv⟩

end

theorem mem_values_of_mentions {v : Value} {i : Instruction} (h : i.Mentions v) :
    v ∈ i.values := by
  induction h with
  | action h => exact h
  | call h => exact h
  | @head _ _ _ other h => cases other <;> simp [values, h]
  | @setup _ setup _ other i hi _ ih =>
    have hv : v ∈ valuesAll setup := mem_valuesAll.mpr ⟨i, hi, ih⟩
    cases other <;> simp [values, hv]
  | @body _ _ body other i hi _ ih =>
    have hv : v ∈ valuesAll body := mem_valuesAll.mpr ⟨i, hi, ih⟩
    cases other <;> simp [values, hv]
  | @otherwise _ _ _ rest i hi _ ih =>
    have hv : v ∈ valuesAll rest := mem_valuesAll.mpr ⟨i, hi, ih⟩
    simp [values, hv]

/-- Reading the values of a template finds every place. -/
theorem Template.mem_values_iff {t : Template} {v : Value} : v ∈ t.values ↔ t.Mentions v := by
  constructor
  · exact mentions_of_mem_valuesAll t.body
  · rintro ⟨i, hi, hv⟩
    exact mem_valuesAll.mpr ⟨i, hi, mem_values_of_mentions hv⟩

/-! ## Line variables of templates -/

theorem args_mapArgs (f : Value → Value) (head : Head) :
    (head.mapArgs f).args = head.args.map f := by
  cases head <;> rfl

mutual

theorem values_mapValues (f : Value → Value) :
    ∀ i : Instruction, (i.mapValues f).values = i.values.map f
  | .action a => rfl
  | .call c => rfl
  | .bracket head setup body none => by
    simp only [mapValues, values, args_mapArgs, valuesAll_mapValuesAll f setup,
      valuesAll_mapValuesAll f body, List.map_append]
  | .bracket head setup body (some rest) => by
    simp only [mapValues, values, args_mapArgs, valuesAll_mapValuesAll f setup,
      valuesAll_mapValuesAll f body, valuesAll_mapValuesAll f rest, List.map_append]

theorem valuesAll_mapValuesAll (f : Value → Value) :
    ∀ is : List Instruction, valuesAll (mapValuesAll f is) = (valuesAll is).map f
  | [] => rfl
  | i :: is => by
    simp only [mapValuesAll, valuesAll, values_mapValues f i, valuesAll_mapValuesAll f is,
      List.map_append]

end

theorem nameIn?_eq_some_iff {scope : Scope} {x : String} :
    ∀ {v : Value}, v.nameIn? scope = some x ↔ v = .var x scope
  | .variable ⟨name, scope'⟩ => by
    by_cases hscope : scope' = scope <;> simp [Value.nameIn?, Value.var, hscope]
  | .text _ | .number _ | .location _ | .vector _ | .sound _ | .potion _ | .gameValue _
  | .particle _ | .tag _ | .item _ => by simp [Value.nameIn?, Value.var]

theorem mem_namesIn_iff {scope : Scope} {t : Template} {x : String} :
    x ∈ t.namesIn scope ↔ .var x scope ∈ t.values := by
  rw [Template.namesIn, List.mem_filterMap]
  constructor
  · rintro ⟨v, hv, hname⟩
    rwa [← nameIn?_eq_some_iff.mp hname]
  · intro hv
    exact ⟨.var x scope, hv, nameIn?_eq_some_iff.mpr rfl⟩

/-- A value is a line variable after promotion only if it was one that is not promoted. -/
theorem mapScope_promoted_eq_line_iff {names : List String} {x : String} :
    ∀ {v : Value}, v.mapScope (fun v => if v.name ∈ names then v.scope.promoted else v.scope) =
      .var x .line ↔ v = .var x .line ∧ x ∉ names
  | .variable ⟨name, scope⟩ => by
    by_cases hname : name ∈ names
    · cases scope <;> simp [Value.mapScope, Value.var, Scope.promoted, hname]
      rintro rfl
      exact hname
    · simp only [Value.mapScope, Value.var, hname, if_false, Value.variable.injEq]
      constructor
      · intro heq
        cases heq
        exact ⟨rfl, hname⟩
      · exact fun h => h.1
  | .text _ | .number _ | .location _ | .vector _ | .sound _ | .potion _ | .gameValue _
  | .particle _ | .tag _ | .item _ => by simp [Value.mapScope, Value.var]

/-- Promotion takes line scope from the names it is given and from no others. -/
theorem mem_namesIn_promote {names : List String} {t : Template} {x : String} :
    x ∈ (t.promote names).namesIn .line ↔ x ∈ t.namesIn .line ∧ x ∉ names := by
  rw [mem_namesIn_iff, mem_namesIn_iff, Template.promote, Template.values, Template.mapValues,
    valuesAll_mapValuesAll, List.mem_map]
  constructor
  · rintro ⟨v, hv, heq⟩
    obtain ⟨rfl, hname⟩ := mapScope_promoted_eq_line_iff.mp heq
    exact ⟨hv, hname⟩
  · rintro ⟨hv, hname⟩
    exact ⟨.var x .line, hv, mapScope_promoted_eq_line_iff.mpr ⟨rfl, hname⟩⟩

/-! ## Templates that differ in values only -/

/-- Heads that are the same but for arguments that `R` relates. -/
inductive Head.Alike (R : Value → Value → Prop) : Head → Head → Prop
  | branch {c : Check} {args : List Value} : List.Forall₂ R c.args args →
    Alike R (.branch c) (.branch { c with args })
  | loop {l : Loop} {args : List Value} : List.Forall₂ R l.args args →
    Alike R (.loop l) (.loop { l with args })

mutual

/-- Instructions that are the same but for values that `R` relates, place by place. -/
inductive Alike (R : Value → Value → Prop) : Instruction → Instruction → Prop
  | action {a : Action} {args : List Value} : List.Forall₂ R a.args args →
    Alike R (.action a) (.action { a with args })
  | call {c : Call} {args : List Value} : List.Forall₂ R c.args args →
    Alike R (.call c) (.call { c with args })
  | single {head head' : Head} {setup setup' body body' : List Instruction} :
    head.Alike R head' → AlikeAll R setup setup' → AlikeAll R body body' →
    Alike R (.bracket head setup body none) (.bracket head' setup' body' none)
  | double {head head' : Head} {setup setup' body body' rest rest' : List Instruction} :
    head.Alike R head' → AlikeAll R setup setup' → AlikeAll R body body' → AlikeAll R rest rest' →
    Alike R (.bracket head setup body (some rest)) (.bracket head' setup' body' (some rest'))

inductive AlikeAll (R : Value → Value → Prop) : List Instruction → List Instruction → Prop
  | nil : AlikeAll R [] []
  | cons {i i' : Instruction} {is is' : List Instruction} : Alike R i i' → AlikeAll R is is' →
    AlikeAll R (i :: is) (i' :: is')

end

section

variable {R : Value → Value → Prop} {f : Value → Value}

theorem forall₂_map_right_self (h : ∀ v, R v (f v)) (vs : List Value) :
    List.Forall₂ R vs (vs.map f) := by
  rw [List.forall₂_map_right_iff, List.forall₂_same]
  exact fun v _ => h v

theorem Head.alike_mapArgs (h : ∀ v, R v (f v)) (head : Head) : head.Alike R (head.mapArgs f) := by
  cases head with
  | branch c => exact .branch (forall₂_map_right_self h c.args)
  | loop l => exact .loop (forall₂_map_right_self h l.args)

mutual

theorem alike_mapValues (h : ∀ v, R v (f v)) : ∀ i : Instruction, Alike R i (i.mapValues f)
  | .action a => .action (forall₂_map_right_self h a.args)
  | .call c => .call (forall₂_map_right_self h c.args)
  | .bracket head setup body none =>
    .single (head.alike_mapArgs h) (alikeAll_mapValuesAll h setup) (alikeAll_mapValuesAll h body)
  | .bracket head setup body (some rest) =>
    .double (head.alike_mapArgs h) (alikeAll_mapValuesAll h setup) (alikeAll_mapValuesAll h body)
      (alikeAll_mapValuesAll h rest)

theorem alikeAll_mapValuesAll (h : ∀ v, R v (f v)) : ∀ is : List Instruction,
    AlikeAll R is (mapValuesAll f is)
  | [] => .nil
  | i :: is => .cons (alike_mapValues h i) (alikeAll_mapValuesAll h is)

end

end

/-- What becomes of a value: a line variable among the names gets game scope, and no other value
changes. -/
def Value.Widens (names : List String) (v w : Value) : Prop :=
  (∃ x ∈ names, v = .var x .line ∧ w = .var x .game) ∨ (∀ x ∈ names, v ≠ .var x .line) ∧ w = v

theorem Value.widens_mapScope (names : List String) : ∀ v : Value, v.Widens names
    (v.mapScope fun v => if v.name ∈ names then v.scope.promoted else v.scope)
  | .variable ⟨name, scope⟩ => by
    by_cases hname : name ∈ names
    · cases scope with
      | line => exact Or.inl ⟨name, hname, rfl, by simp [mapScope, hname, Scope.promoted, var]⟩
      | thread | game | saved =>
        exact Or.inr ⟨by simp [var], by simp [mapScope, hname, Scope.promoted]⟩
    · refine Or.inr ⟨?_, by simp [mapScope, hname]⟩
      rintro x hx heq
      cases heq
      exact hname hx
  | .text _ | .number _ | .location _ | .vector _ | .sound _ | .potion _ | .gameValue _
  | .particle _ | .tag _ | .item _ => Or.inr ⟨by simp [var], rfl⟩

/-! ## Shared names -/

theorem mem_distinct {x : String} {xs : List String} : x ∈ distinct xs ↔ x ∈ xs := by
  induction xs with
  | nil => rfl
  | cons y ys ih =>
    rw [distinct, List.mem_cons, List.mem_cons, List.mem_filter, ih]
    by_cases hxy : x = y <;> simp [hxy]

theorem mem_sharedNames {x : String} {ts : List Template} :
    x ∈ sharedNames ts ↔ 2 ≤ ts.countP fun t => x ∈ t.namesIn .line := by
  rw [sharedNames, List.mem_filter, mem_distinct, decide_eq_true_iff, and_iff_right_iff_imp]
  intro hcount
  obtain ⟨t, ht, hx⟩ := List.countP_pos_iff.mp (Nat.lt_of_lt_of_le Nat.zero_lt_two hcount)
  exact List.mem_flatMap.mpr ⟨t, ht, of_decide_eq_true hx⟩

/-- A name is shared when line variables of two templates have it. -/
theorem mem_sharedNames_iff {x : String} {ts : List Template} :
    x ∈ sharedNames ts ↔
      ∃ t t', [t, t'].Sublist ts ∧ t.Mentions (.var x .line) ∧ t'.Mentions (.var x .line) := by
  simp only [mem_sharedNames, two_le_countP_iff, decide_eq_true_iff, mem_namesIn_iff,
    Template.mem_values_iff]

/-- The place of the first mention of a line variable, in the order of the values of templates. -/
def firstMention (ts : List Template) (x : String) : Nat :=
  (ts.flatMap Template.values).idxOf (.var x .line)

theorem distinct_ordered (vs : List Value) :
    (distinct (vs.filterMap (Value.nameIn? .line))).Pairwise fun x y =>
      vs.idxOf (.var x .line) < vs.idxOf (.var y .line) := by
  induction vs with
  | nil => exact List.Pairwise.nil
  | cons v vs ih =>
    have hshift : ∀ x, v ≠ .var x .line →
        (v :: vs).idxOf (.var x .line) = vs.idxOf (.var x .line) + 1 := by
      intro x hx
      rw [List.idxOf_cons_ne _ hx]
    cases hname : v.nameIn? .line with
    | none =>
      rw [List.filterMap_cons_none hname]
      refine ih.imp fun {x y} hlt => ?_
      have hne : ∀ z, v ≠ .var z .line := by
        rintro z rfl
        simp [Value.nameIn?, Value.var] at hname
      rw [hshift x (hne x), hshift y (hne y)]
      omega
    | some z =>
      obtain rfl := nameIn?_eq_some_iff.mp hname
      have hne : ∀ x, x ≠ z → Value.var z .line ≠ .var x .line := by
        intro x hx heq
        cases heq
        exact hx rfl
      rw [List.filterMap_cons_some hname, distinct, List.pairwise_cons]
      constructor
      · intro y hy
        have hyz : y ≠ z := by simpa using (List.mem_filter.mp hy).2
        rw [List.idxOf_cons_self, hshift y (hne y hyz)]
        omega
      · refine (ih.sublist List.filter_sublist).imp_of_mem fun {x y} hx hy hlt => ?_
        have hxz : x ≠ z := by simpa using (List.mem_filter.mp hx).2
        have hyz : y ≠ z := by simpa using (List.mem_filter.mp hy).2
        rw [hshift x (hne x hxz), hshift y (hne y hyz)]
        omega

theorem sharedNames_ordered (ts : List Template) :
    (sharedNames ts).Pairwise fun x y => firstMention ts x < firstMention ts y := by
  have hnames : ts.flatMap (Template.namesIn .line) =
      (ts.flatMap Template.values).filterMap (Value.nameIn? .line) := by
    rw [List.filterMap_flatMap]
    rfl
  rw [sharedNames, hnames]
  exact (distinct_ordered _).sublist List.filter_sublist

/-! ## Promoting a unit -/

/-- The unit `u` is what promotion makes of the templates `ts`. -/
structure PromotesShared (ts : List Template) (u : PromotedUnit) : Prop where
  apart : u.templates.Pairwise fun t t' =>
    ∀ x, t.Mentions (.var x .line) → ¬ t'.Mentions (.var x .line)
  shared : ∀ x, x ∈ u.promoted ↔
    ∃ t t', [t, t'].Sublist ts ∧ t.Mentions (.var x .line) ∧ t'.Mentions (.var x .line)
  once : u.promoted.Nodup
  ordered : u.promoted.Pairwise fun x y => firstMention ts x < firstMention ts y
  unchanged : List.Forall₂ (fun t t' => t'.header = t.header ∧ t'.weight = t.weight ∧
    AlikeAll (Value.Widens u.promoted) t.body t'.body) ts u.templates

theorem promotesShared_promoteUnit (name : String) (ts : List Template) :
    PromotesShared ts (promoteUnit name ts) where
  apart := by
    rw [promoteUnit, List.pairwise_map, List.pairwise_iff_forall_sublist]
    intro t t' hsub x hx hx'
    rw [← Template.mem_values_iff, ← mem_namesIn_iff, mem_namesIn_promote, mem_namesIn_iff,
      Template.mem_values_iff] at hx hx'
    exact hx.2 (mem_sharedNames_iff.mpr ⟨t, t', hsub, hx.1, hx'.1⟩)
  shared := fun x => mem_sharedNames_iff
  once := (sharedNames_ordered ts).imp fun {x y} hlt heq => by
    rw [heq] at hlt
    exact Nat.lt_irrefl _ hlt
  ordered := sharedNames_ordered ts
  unchanged := by
    rw [promoteUnit, List.forall₂_map_right_iff, List.forall₂_same]
    intro t _
    exact ⟨rfl, t.weight_promote _, alikeAll_mapValuesAll (Value.widens_mapScope _) t.body⟩

/-- **Promotion.** A fitted program holds, unit by unit, the templates of the fitting with the
shared line variables promoted, and it has these variables on record. -/
theorem promotesShared_of_fit {P : Program} {capacity : Nat} {out : FittedProgram}
    (h : P.fit capacity = .ok out) :
    out.templates = (out.units.map PromotedUnit.templates).flatten ∧
      out.promotions =
        (out.units.map fun u => u.promoted.map fun x => ⟨u.name, x⟩).flatten ∧
      List.Forall₂ (fun unit u => u.name = unit.name ∧
          ∃ ts, fit capacity unit = .ok ts ∧ PromotesShared ts u)
        P.units out.units := by
  refine ⟨rfl, rfl, (Program.units_of_fit h).imp fun unit u hfit => ?_⟩
  obtain ⟨ts, hts, rfl⟩ := hfit
  exact ⟨rfl, ts, hts, promotesShared_promoteUnit unit.name ts⟩

/-- The templates of the first unit share `x`; the second unit has no variables. -/
theorem promotesShared_sample :
    Sample.fitted.promotions = [⟨"event.Join", "x"⟩] ∧
      List.Forall₂ (fun unit u => u.name = unit.name ∧
          ∃ ts, fit 12 unit = .ok ts ∧ PromotesShared ts u)
        Sample.program.units Sample.fitted.units :=
  ⟨rfl, (promotesShared_of_fit Sample.program_fit).2.2⟩

end Plotline
