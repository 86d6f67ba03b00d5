import Mathlib.Data.List.Flatten
import Plotline.Proofs.Fitting.Reassembly

/-!
# Links form a tree

The templates of a unit are linked by calls of its continuations. `linkTree_of_fit` says how: the
continuations are numbered in the order of the templates, each of them is called exactly once, from
an earlier template of its unit, and only from the end of a template or of a body of one of its
outermost brackets. Apart from links, every template holds something of the unit.

Since links lead to later templates only, following them comes to an end. `InlinesAll` says what
putting templates together means without a bound on the calls that are followed in a row;
`reassemble`, which has such a bound, agrees with it on every fitted program.
-/

namespace Plotline

open Instruction

/-! ## Calls of a function -/

/-- Whether the call is one of the function `name`. -/
def Call.runs (name : String) (c : Call) : Bool := c.kind = .function ∧ c.name = name

theorem Call.runs_iff {name : String} {c : Call} :
    c.runs name = true ↔ c.kind = .function ∧ c.name = name := by
  simp [Call.runs]

/-- The calls in templates, at any depth. -/
def callsOf (ts : List Template) : List Call := ts.flatMap fun t => callsAll t.body

theorem callsOf_cons (t : Template) (ts : List Template) :
    callsOf (t :: ts) = callsAll t.body ++ callsOf ts := rfl

theorem callsOf_append (ts us : List Template) : callsOf (ts ++ us) = callsOf ts ++ callsOf us :=
  List.flatMap_append

/-- Promotion changes arguments of calls only. -/
theorem countP_callsOf_promote (names : List String) (ts : List Template) (name : String) :
    (callsOf (ts.map (Template.promote names))).countP (Call.runs name) =
      (callsOf ts).countP (Call.runs name) := by
  induction ts with
  | nil => rfl
  | cons t ts ih =>
    rw [List.map_cons, callsOf_cons, callsOf_cons, List.countP_append, List.countP_append, ih]
    simp only [Template.promote, Template.mapValues, callsAll_mapValuesAll, List.countP_map]
    rfl

/-! ## Calls of a layout -/

section

variable (p : Plot) (q : Call → Bool)

mutual

/-- The templates of a layout make the calls of what is laid out, and one for each number. -/
theorem Layout.countP_calls : ∀ l : Layout,
    (callsAll (l.held p)).countP q + (callsOf (l.behind p)).countP q =
      (callsAll l.joined).countP q + l.numbers.countP fun n => q (.link (p.continuation n))
  | .done => rfl
  | .node i rest => by
    have hrest := rest.countP_calls
    simp only [Layout.held, Layout.behind, Layout.joined, Layout.numbers, callsAll,
      List.countP_append]
    omega
  | .cut b rest => by
    have hb := b.countP_calls
    have hrest := rest.countP_calls
    simp only [Layout.held, Layout.behind, Layout.joined, Layout.numbers, callsAll, callsOf_append,
      List.countP_append]
    omega
  | .next n rest => by
    have hrest := rest.countP_calls
    simp only [Layout.held, Layout.behind, Layout.joined, Layout.numbers, callsOf_cons,
      List.countP_append, List.countP_cons, Plot.link, callsAll, calls, List.countP_nil]
    omega

theorem CutBracket.countP_calls : ∀ b : CutBracket,
    (b.held p).calls.countP q + (callsOf (b.behind p)).countP q =
      b.joined.calls.countP q + b.numbers.countP fun n => q (.link (p.continuation n))
  | .single head setup body => by
    have hbody := body.countP_calls
    simp only [CutBracket.held, CutBracket.behind, CutBracket.joined, CutBracket.numbers, calls,
      List.countP_append]
    omega
  | .double head setup body other => by
    have hbody := body.countP_calls
    have hother := other.countP_calls
    simp only [CutBracket.held, CutBracket.behind, CutBracket.joined, CutBracket.numbers, calls,
      callsOf_append, List.countP_append]
    omega

theorem CutBody.countP_calls : ∀ b : CutBody,
    (callsAll (b.held p)).countP q + (callsOf (b.behind p)).countP q =
      (callsAll b.joined).countP q + b.numbers.countP fun n => q (.link (p.continuation n))
  | .whole is => rfl
  | .split kept n rest => by
    have hrest := rest.countP_calls
    simp only [CutBody.held, CutBody.behind, CutBody.joined, CutBody.numbers, callsAll_append,
      callsOf_cons, List.countP_append, List.countP_cons, Plot.link, callsAll, calls,
      List.countP_nil]
    omega

end

end

/-! ## Where a continuation is called -/

/-- The bodies of a bracket. -/
def Instruction.bodies : Instruction → List (List Instruction)
  | .action _ | .call _ => []
  | .bracket _ _ body none => [body]
  | .bracket _ _ body (some rest) => [body, rest]

/-- The instruction `i` is the last of `is`, or the last in a body of a bracket among them. -/
def Closes (i : Instruction) (is : List Instruction) : Prop :=
  is.getLast? = some i ∨ ∃ j ∈ is, ∃ b ∈ j.bodies, b.getLast? = some i

instance (i : Instruction) (is : List Instruction) : Decidable (Closes i is) :=
  inferInstanceAs (Decidable (_ ∨ _))

theorem Closes.cons {i : Instruction} {is : List Instruction} (h : Closes i is)
    (j : Instruction) : Closes i (j :: is) := by
  rcases h with hlast | ⟨k, hk, hbody⟩
  · exact Or.inl (by rw [List.getLast?_cons, hlast, Option.getD_some])
  · exact Or.inr ⟨k, List.mem_cons_of_mem j hk, hbody⟩

/-- The continuation `n` is called at an end in a continuation with a smaller number. -/
def CalledBehind (p : Plot) (n : Nat) (ts : List Template) : Prop :=
  ∃ m < n, ∃ t ∈ ts, t.header = .continuation (p.continuation m) ∧ Closes (p.link n) t.body

theorem CalledBehind.mono {p : Plot} {n : Nat} {ts us : List Template} (h : CalledBehind p n ts)
    (hsub : ts ⊆ us) : CalledBehind p n us := by
  obtain ⟨m, hm, t, ht, hcall⟩ := h
  exact ⟨m, hm, t, hsub ht, hcall⟩

section

variable (p : Plot)

mutual

theorem Layout.exists_caller : ∀ l : Layout, l.numbers.Pairwise (· < ·) → ∀ n ∈ l.numbers,
    Closes (p.link n) (l.held p) ∨ CalledBehind p n (l.behind p)
  | .done, _, n, hn => by cases hn
  | .node i rest, hsorted, n, hn => (rest.exists_caller hsorted n hn).imp_left fun h => h.cons i
  | .cut b rest, hsorted, n, hn => by
    obtain ⟨hb, hrest, -⟩ := List.pairwise_append.mp hsorted
    rcases List.mem_append.mp hn with hn | hn
    · rcases b.exists_caller hb n hn with hbody | hbehind
      · exact Or.inl (Or.inr ⟨_, List.mem_cons_self, hbody⟩)
      · exact Or.inr (hbehind.mono (List.subset_append_left _ _))
    · rcases rest.exists_caller hrest n hn with hheld | hbehind
      · exact Or.inl (hheld.cons _)
      · exact Or.inr (hbehind.mono (List.subset_append_right _ _))
  | .next m rest, hsorted, n, hn => by
    obtain ⟨hm, hrest⟩ := List.pairwise_cons.mp hsorted
    rcases List.mem_cons.mp hn with rfl | hn
    · exact Or.inl (Or.inl rfl)
    · rcases rest.exists_caller hrest n hn with hheld | hbehind
      · exact Or.inr ⟨m, hm n hn, _, List.mem_cons_self, rfl, hheld⟩
      · exact Or.inr (hbehind.mono (List.subset_cons_self _ _))

theorem CutBracket.exists_caller : ∀ b : CutBracket, b.numbers.Pairwise (· < ·) →
    ∀ n ∈ b.numbers, (∃ body ∈ (b.held p).bodies, body.getLast? = some (p.link n)) ∨
      CalledBehind p n (b.behind p)
  | .single head setup body, hsorted, n, hn =>
    (body.exists_caller hsorted n hn).imp_left fun h => ⟨_, List.mem_singleton_self _, h⟩
  | .double head setup body other, hsorted, n, hn => by
    obtain ⟨hbody, hother, -⟩ := List.pairwise_append.mp hsorted
    rcases List.mem_append.mp hn with hn | hn
    · rcases body.exists_caller hbody n hn with hlast | hbehind
      · exact Or.inl ⟨_, List.mem_cons_self, hlast⟩
      · exact Or.inr (hbehind.mono (List.subset_append_left _ _))
    · rcases other.exists_caller hother n hn with hlast | hbehind
      · exact Or.inl ⟨_, List.mem_cons_of_mem _ List.mem_cons_self, hlast⟩
      · exact Or.inr (hbehind.mono (List.subset_append_right _ _))

theorem CutBody.exists_caller : ∀ b : CutBody, b.numbers.Pairwise (· < ·) →
    ∀ n ∈ b.numbers, (b.held p).getLast? = some (p.link n) ∨ CalledBehind p n (b.behind p)
  | .whole is, _, n, hn => by cases hn
  | .split kept m rest, hsorted, n, hn => by
    obtain ⟨hm, hrest⟩ := List.pairwise_cons.mp hsorted
    rcases List.mem_cons.mp hn with rfl | hn
    · exact Or.inl List.getLast?_concat
    · rcases rest.exists_caller hrest n hn with hheld | hbehind
      · exact Or.inr ⟨m, hm n hn, _, List.mem_cons_self, rfl, hheld⟩
      · exact Or.inr (hbehind.mono (List.subset_cons_self _ _))

end

end

/-! ## Every template holds something of its unit -/

theorem callsAll_keep_subset (budget : Nat) (is : List Instruction) :
    callsAll (keep budget is).2 ⊆ callsAll is := by
  nth_rewrite 2 [← keep_append budget is]
  rw [callsAll_append]
  exact List.subset_append_right _ _

/-- The instructions begin with a bracket, an action, or one of the calls `cs`. -/
def Begins (cs : List Call) (is : List Instruction) : Prop :=
  ∃ i ∈ is.head?, ∀ c, i = .call c → c ∈ cs

theorem begins_cons {cs : List Call} {i : Instruction} (h : i.calls ⊆ cs)
    (is : List Instruction) : Begins cs (i :: is) := by
  refine ⟨i, rfl, ?_⟩
  rintro c rfl
  exact h List.mem_cons_self

theorem Begins.append {cs : List Call} {is : List Instruction} (h : Begins cs is)
    (js : List Instruction) : Begins cs (is ++ js) := by
  obtain ⟨i, hi, hcs⟩ := h
  exact ⟨i, List.mem_head?_append_of_mem_head? hi, hcs⟩

theorem begins_steps (p : Plot) (cs : List Call) :
    RunSteps p
      (fun placed _ nodes c => callsAll nodes ⊆ cs →
        (placed = [] ∧ nodes ≠ [] ∨ Begins cs placed → Begins cs c.kept) ∧
          ∀ t ∈ c.templates, Begins cs t.body)
      (fun _ _ body other _ _ b => callsAll body ⊆ cs → callsAll (other.getD []) ⊆ cs →
        Begins cs [b.kept] ∧ ∀ t ∈ b.templates, Begins cs t.body)
      (fun _ body _ _ b => callsAll body ⊆ cs → ∀ t ∈ b.templates, Begins cs t.body) where
  done placed n := by
    intro _
    refine ⟨?_, by simp⟩
    rintro (⟨-, hne⟩ | hplaced)
    · exact absurd rfl hne
    · exact hplaced
  take {placed n node rest c} _ ih := by
    intro hnodes
    rw [callsAll, List.append_subset] at hnodes
    obtain ⟨hkept, hbehind⟩ := ih hnodes.2
    refine ⟨fun hplaced => hkept (Or.inr ?_), hbehind⟩
    rcases hplaced with ⟨rfl, -⟩ | hplaced
    · exact begins_cons hnodes.1 []
    · exact hplaced.append [node]
  spill {placed n node rest c} _ hne ih := by
    intro hnodes
    obtain ⟨hkept, hbehind⟩ := ih hnodes
    refine ⟨?_, List.forall_mem_cons.mpr ⟨hkept (Or.inl ⟨rfl, by simp⟩), hbehind⟩⟩
    rintro (⟨rfl, -⟩ | hplaced)
    · exact absurd rfl hne
    · exact hplaced.append _
  cut {n head setup body other rest b c} _ hb ih := by
    intro hnodes
    rw [callsAll, List.append_subset] at hnodes
    obtain ⟨hbracket, hrest⟩ := hnodes
    have hbodies : callsAll body ⊆ cs ∧ callsAll (other.getD []) ⊆ cs := by
      cases other with
      | none =>
        rw [calls, List.append_subset] at hbracket
        exact ⟨hbracket.2, List.nil_subset cs⟩
      | some other =>
        rw [calls, List.append_subset, List.append_subset] at hbracket
        exact ⟨hbracket.1.2, hbracket.2⟩
    obtain ⟨hcut, hbehind⟩ := hb hbodies.1 hbodies.2
    obtain ⟨hkept, hbehind'⟩ := ih hrest
    exact ⟨fun _ => hkept (Or.inr hcut), List.forall_mem_append.mpr ⟨hbehind, hbehind'⟩⟩
  single {head setup body available n b} _ hb := by
    intro hbody _
    exact ⟨⟨_, rfl, by simp⟩, hb hbody⟩
  double {head setup body other available n b o} _ hb ho := by
    intro hbody hother
    exact ⟨⟨_, rfl, by simp⟩, List.forall_mem_append.mpr ⟨hb hbody, ho hother⟩⟩
  whole {head body budget n} _ := by
    intro _
    simp
  split {head body budget n c} hheavy _ ih := by
    intro hbody
    obtain ⟨hkept, hbehind⟩ := ih (List.Subset.trans (callsAll_keep_subset budget body) hbody)
    exact List.forall_mem_cons.mpr ⟨hkept (Or.inl ⟨rfl, keep_ne_nil hheavy⟩), hbehind⟩

/-- The templates of a unit that holds something begin with something of the unit. -/
theorem begins_of_fit {capacity : Nat} {unit : Template} {ts : List Template}
    (h : fit capacity unit = .ok ts) (hne : unit.body ≠ []) :
    ∀ t ∈ ts, Begins (callsAll unit.body) t.body := by
  obtain ⟨c, rfl, hrun⟩ := (begins_steps ⟨capacity, unit.name⟩ (callsAll unit.body)).fit h
  obtain ⟨hkept, hbehind⟩ := hrun (List.Subset.refl _)
  exact List.forall_mem_cons.mpr ⟨hkept (Or.inl ⟨rfl, hne⟩), hbehind⟩

/-! ## Putting templates together without a bound -/

mutual

/-- The instruction gives `is` when every call of a continuation is replaced by what the
continuation gives, however many calls that takes. -/
inductive Inlines (cs : Continuations) : Instruction → List Instruction → Prop
  | action (a : Action) : Inlines cs (.action a) [.action a]
  | process {c : Call} : c.kind = .process → Inlines cs (.call c) [.call c]
  | foreign {c : Call} : c.kind = .function → cs.body? c.name = none →
      Inlines cs (.call c) [.call c]
  | link {c : Call} {body is : List Instruction} : c.kind = .function →
    cs.body? c.name = some body → InlinesAll cs body is → Inlines cs (.call c) is
  | single {head : Head} {setup setup' body body' : List Instruction} :
    InlinesAll cs setup setup' → InlinesAll cs body body' →
    Inlines cs (.bracket head setup body none) [.bracket head setup' body' none]
  | double {head : Head} {setup setup' body body' rest rest' : List Instruction} :
    InlinesAll cs setup setup' → InlinesAll cs body body' → InlinesAll cs rest rest' →
    Inlines cs (.bracket head setup body (some rest)) [.bracket head setup' body' (some rest')]

inductive InlinesAll (cs : Continuations) : List Instruction → List Instruction → Prop
  | nil : InlinesAll cs [] []
  | cons {i : Instruction} {is js ks : List Instruction} : Inlines cs i js → InlinesAll cs is ks →
    InlinesAll cs (i :: is) (js ++ ks)

end

section

variable {cs : Continuations}

theorem InlinesAll.append {is is' js js' : List Instruction} (h : InlinesAll cs is is') :
    InlinesAll cs js js' → InlinesAll cs (is ++ js) (is' ++ js') := by
  intro hjs
  induction is generalizing is' with
  | nil =>
    cases h
    exact hjs
  | cons i is ih =>
    cases h with
    | cons hi his =>
      rw [List.append_assoc]
      exact .cons hi (ih his)

theorem inlinesAll_singleton {i : Instruction} {is : List Instruction} (h : Inlines cs i is) :
    InlinesAll cs [i] is := by
  simpa using InlinesAll.cons h .nil

theorem inlines_of_singleton {i : Instruction} {is : List Instruction} (h : InlinesAll cs [i] is) :
    Inlines cs i is := by
  cases h with
  | cons hi hnil =>
    cases hnil
    simpa using hi

theorem replacing_inlinesAll (cs : Continuations) : Replacing cs fun _ => InlinesAll cs where
  nil := .nil
  append := InlinesAll.append
  action := inlinesAll_singleton (.action _)
  call := by
    rintro d ⟨kind, name, args⟩ hforeign
    cases kind with
    | process => exact inlinesAll_singleton (.process rfl)
    | function => exact inlinesAll_singleton (.foreign rfl (hforeign rfl))
  link hkind hbody his := inlinesAll_singleton (.link hkind hbody his)
  single hsetup hbody := inlinesAll_singleton (.single hsetup hbody)
  double hsetup hbody hrest := inlinesAll_singleton (.double hsetup hbody hrest)

end

/-- What a layout holds gives what was laid out. -/
theorem Layout.inlinesAll_held (p : Plot) (f : Value → Value) (cs : Continuations) (l : Layout)
    {d : Nat} (h : Leads cs f d (callsAll l.joined) (l.behind p)) :
    InlinesAll cs (mapValuesAll f (l.held p)) (mapValuesAll f l.joined) :=
  l.replacing_held p (replacing_inlinesAll cs) h

theorem CutBracket.inlines_held (p : Plot) (f : Value → Value) (cs : Continuations) (b : CutBracket)
    {d : Nat} (h : Leads cs f d b.joined.calls (b.behind p)) :
    Inlines cs ((b.held p).mapValues f) [b.joined.mapValues f] :=
  inlines_of_singleton (b.replacing_held p (replacing_inlinesAll cs) h)

/-! ## Ends and beginnings after promotion -/

theorem mapValuesAll_eq_map (f : Value → Value) (is : List Instruction) :
    mapValuesAll f is = is.map (mapValues f) := by
  induction is with
  | nil => rfl
  | cons i is ih => rw [mapValuesAll, ih, List.map_cons]

theorem bodies_mapValues (f : Value → Value) (i : Instruction) :
    (i.mapValues f).bodies = i.bodies.map (mapValuesAll f) := by
  cases i with
  | action a => rfl
  | call c => rfl
  | bracket head setup body rest => cases rest <;> rfl

theorem getLast?_mapValuesAll {f : Value → Value} {i : Instruction} {is : List Instruction}
    (h : is.getLast? = some i) : (mapValuesAll f is).getLast? = some (i.mapValues f) := by
  rw [mapValuesAll_eq_map, List.getLast?_map, h, Option.map_some]

theorem Closes.mapValues {i : Instruction} {is : List Instruction} (h : Closes i is)
    (f : Value → Value) : Closes (i.mapValues f) (mapValuesAll f is) := by
  rcases h with hlast | ⟨j, hj, b, hb, hlast⟩
  · exact Or.inl (getLast?_mapValuesAll hlast)
  · refine Or.inr ⟨j.mapValues f, ?_, mapValuesAll f b, ?_, getLast?_mapValuesAll hlast⟩
    · rw [mapValuesAll_eq_map]
      exact List.mem_map_of_mem hj
    · rw [bodies_mapValues]
      exact List.mem_map_of_mem hb

theorem mapValues_eq_call {f : Value → Value} {i : Instruction} {c : Call}
    (h : i.mapValues f = .call c) : ∃ c', i = .call c' ∧ c'.kind = c.kind ∧ c'.name = c.name := by
  match i with
  | .action _ => cases h
  | .call c' =>
    cases h
    exact ⟨c', rfl, rfl, rfl⟩
  | .bracket _ _ _ none => cases h
  | .bracket _ _ _ (some _) => cases h

/-! ## The tree of a unit -/

/-- The instruction calls a continuation among the templates. -/
def IsLink (ts : List Template) (i : Instruction) : Prop :=
  ∃ c, i = .call c ∧ ∃ t ∈ ts, t.header.isContinuation = true ∧ c.runs t.name = true

/-- The templates `ts` of a unit are linked to a tree, in a program with the templates `all`. -/
structure LinkTree (unit : Template) (ts all : List Template) : Prop where
  /-- The unit starts the first template, and the others are numbered. -/
  headers : ts.map Template.header = unit.header :: (List.range' 1 (ts.length - 1)).map fun n =>
    .continuation (unit.name ++ "~" ++ toString n)
  /-- No other call in the program leads to a continuation than the one that `caller` finds. -/
  once : ∀ n, 1 ≤ n → n < ts.length →
    (callsOf all).countP (Call.runs (unit.name ++ "~" ++ toString n)) = 1
  caller : ∀ n, 1 ≤ n → n < ts.length → ∃ m < n, ∃ t, ts[m]? = some t ∧
    Closes (.call (.link (unit.name ++ "~" ++ toString n))) t.body
  /-- A template holds more than links. -/
  own : unit.body ≠ [] → ∀ t ∈ ts, ∃ i ∈ t.body, ¬ IsLink all i

theorem sorted_of_follow {n : Nat} {ns : List Nat} (h : Follow n ns) : ns.Pairwise (· < ·) := by
  rw [show ns = _ from h]
  exact List.pairwise_lt_range'

theorem mem_iff_of_follow {n m : Nat} {ns : List Nat} (h : Follow n ns) :
    m ∈ ns ↔ n < m ∧ m ≤ n + ns.length := by
  nth_rewrite 1 [show ns = _ from h]
  rw [List.mem_range'_1]
  omega

theorem getElem?_follow {n k m : Nat} {ns : List Nat} (h : Follow n ns) (hk : ns[k]? = some m) :
    m = n + 1 + k := by
  obtain ⟨hlt, rfl⟩ := List.getElem?_eq_some_iff.mp hk
  have hget := congrArg (·[k]?) (show ns = _ from h)
  simpa [List.getElem?_range', hlt] using hget

/-! ## The continuations of a unit -/

/-- The names of the continuations of a unit. -/
def PromotedUnit.linkNames (u : PromotedUnit) : List String :=
  (List.range' 1 (u.templates.length - 1)).map fun n => u.name ++ "~" ++ toString n

namespace PromotedUnit

theorem mem_linkNames {u : PromotedUnit} {name : String} : name ∈ u.linkNames ↔
    ∃ n, (1 ≤ n ∧ n < u.templates.length) ∧ u.name ++ "~" ++ toString n = name := by
  rw [linkNames, List.mem_map]
  refine exists_congr fun n => and_congr_left fun _ => ?_
  rw [List.mem_range'_1]
  omega

theorem linkNames_nodup (u : PromotedUnit) : u.linkNames.Nodup := by
  refine (List.nodup_range' ..).map fun n m heq => ?_
  exact (continuation_inj (p := ⟨0, u.name⟩) (q := ⟨0, u.name⟩) heq).2

/-- Two units share a name of a continuation if both are split and they have the same name. -/
theorem disjoint_linkNames_iff {u v : PromotedUnit} : u.linkNames.Disjoint v.linkNames ↔
    (2 ≤ u.templates.length → 2 ≤ v.templates.length → u.name ≠ v.name) := by
  constructor
  · intro hdisjoint hu hv hname
    -- the first continuations have the same name
    refine hdisjoint (mem_linkNames.mpr ⟨1, ⟨le_rfl, hu⟩, rfl⟩) ?_
    exact mem_linkNames.mpr ⟨1, ⟨le_rfl, hv⟩, by rw [hname]⟩
  · intro hne name hname hname'
    obtain ⟨n, hn, rfl⟩ := mem_linkNames.mp hname
    obtain ⟨m, hm, heq⟩ := mem_linkNames.mp hname'
    have hunit := (continuation_inj (p := ⟨0, v.name⟩) (q := ⟨0, u.name⟩) heq).1
    exact hne (by omega) (by omega) hunit.symm

end PromotedUnit

theorem nodup_flatMap_linkNames_iff {us : List PromotedUnit} :
    (us.flatMap PromotedUnit.linkNames).Nodup ↔
      ((us.filter fun u => 2 ≤ u.templates.length).map PromotedUnit.name).Nodup := by
  rw [List.nodup_flatMap, and_iff_right fun u _ => u.linkNames_nodup, List.Nodup,
    List.pairwise_map, List.pairwise_filter]
  refine List.Pairwise.iff fun {u v} => ?_
  rw [decide_eq_true_iff, decide_eq_true_iff]
  exact PromotedUnit.disjoint_linkNames_iff

namespace LaidOut

variable {capacity : Nat} {unit : Template} {u : PromotedUnit} {l : Layout}

theorem length_templates (h : LaidOut capacity unit u l) :
    u.templates.length = l.numbers.length + 1 := by
  have hbehind := congrArg List.length (l.headers_behind ⟨capacity, unit.name⟩)
  rw [Plot.headers, List.length_map, List.length_map] at hbehind
  rw [h.templates, List.length_map, Layout.templates, List.length_cons, hbehind]

theorem linkNames_eq (h : LaidOut capacity unit u l) :
    u.linkNames = l.numbers.map (Plot.continuation ⟨capacity, unit.name⟩) := by
  have hnum : l.numbers = List.range' 1 l.numbers.length := by simpa [Follow] using h.numbers
  rw [PromotedUnit.linkNames, h.length_templates, Nat.add_sub_cancel, ← hnum, h.name]
  rfl

theorem headers_eq (h : LaidOut capacity unit u l) :
    u.templates.map Template.header = unit.header :: u.linkNames.map Header.continuation := by
  rw [h.linkNames_eq, h.templates, List.map_map, List.map_map, Layout.templates, List.map_cons]
  exact congrArg (unit.header :: ·) (l.headers_behind ⟨capacity, unit.name⟩)

/-- The templates of a unit make the calls of the unit, and one for each continuation. -/
theorem countP_callsOf (h : LaidOut capacity unit u l) (name : String) :
    (callsOf u.templates).countP (Call.runs name) =
      (callsAll unit.body).countP (Call.runs name) + u.linkNames.count name := by
  have hlayout := l.countP_calls ⟨capacity, unit.name⟩ (Call.runs name)
  rw [h.templates, countP_callsOf_promote, Layout.templates, callsOf_cons, List.countP_append,
    hlayout, h.joined, h.linkNames_eq, List.count, List.countP_map]
  congr 1
  apply List.countP_congr
  intro n _
  simp [Call.runs, Call.link]

/-- A continuation is called from an earlier template. -/
theorem exists_caller (h : LaidOut capacity unit u l) {n : Nat} (hpos : 1 ≤ n)
    (hn : n < u.templates.length) : ∃ m < n, ∃ t, u.templates[m]? = some t ∧
      Closes (.call (.link (unit.name ++ "~" ++ toString n))) t.body := by
  rw [h.length_templates] at hn
  have hmem : n ∈ l.numbers := (mem_iff_of_follow h.numbers).mpr (by omega)
  -- the call stands in a template of the layout, and promotion keeps it there
  have hindex : ∃ m < n, ∃ t, (l.templates ⟨capacity, unit.name⟩ unit.header)[m]? = some t ∧
      Closes (Plot.link ⟨capacity, unit.name⟩ n) t.body := by
    rcases l.exists_caller ⟨capacity, unit.name⟩ (sorted_of_follow h.numbers) n hmem with
      hheld | ⟨m, hm, t, ht, hheader, hcloses⟩
    · exact ⟨0, by omega, _, rfl, hheld⟩
    · obtain ⟨k, hk⟩ := List.mem_iff_getElem?.mp ht
      -- the template at hand is the one whose number says its place
      have hheaders := congrArg (·[k]?) (l.headers_behind ⟨capacity, unit.name⟩)
      simp only [List.getElem?_map, Plot.headers, hk, Option.map_some, hheader] at hheaders
      obtain ⟨m', hm', heq⟩ := Option.map_eq_some_iff.mp hheaders.symm
      obtain rfl : m' = m := (continuation_inj (congrArg Header.unitName heq)).2
      have hplace : m' = 0 + 1 + k := getElem?_follow h.numbers hm'
      refine ⟨k + 1, by omega, t, ?_, hcloses⟩
      rw [Layout.templates, List.getElem?_cons_succ, hk]
  obtain ⟨m, hm, t, ht, hcloses⟩ := hindex
  refine ⟨m, hm, t.promote u.promoted, ?_, hcloses.mapValues _⟩
  rw [h.templates, List.getElem?_map, ht, Option.map_some]

end LaidOut

section

variable {P : Program} {capacity : Nat} {out : FittedProgram}

/-- A fitted program makes the calls of the program, and one for each continuation. -/
theorem Program.countP_callsOf (h : P.fit capacity = .ok out) (name : String) :
    (callsOf out.templates).countP (Call.runs name) =
      (callsOf P.units).countP (Call.runs name) +
        (out.units.flatMap PromotedUnit.linkNames).count name := by
  have hunits := Program.units_of_fit h
  rw [FittedProgram.templates]
  clear h
  generalize P.units = units, out.units = us at hunits ⊢
  induction hunits with
  | nil => rfl
  | cons hfit _ ih =>
    obtain ⟨l, hl⟩ := hfit.laidOut
    rw [List.flatMap_cons, List.flatMap_cons, callsOf_append, callsOf_cons, List.countP_append,
      List.countP_append, List.count_append, hl.countP_callsOf, ih]
    omega

/-- The program itself does not call a continuation. -/
theorem Program.Fresh.countP_callsOf (hfresh : P.Fresh) {v : Template} (hv : v ∈ P.units) {n : Nat}
    (hn : 1 ≤ n) : (callsOf P.units).countP (Call.runs (v.name ++ "~" ++ toString n)) = 0 := by
  rw [List.countP_eq_zero]
  intro c hc hruns
  obtain ⟨unit, hunit, hcall⟩ := List.mem_flatMap.mp hc
  obtain ⟨hkind, hname⟩ := Call.runs_iff.mp hruns
  exact hfresh.uncalled unit hunit c hcall hkind v hv n hn hname

/-- No two continuations of a program have the same name. -/
theorem Program.Fresh.nodup_linkNames (hfresh : P.Fresh) (h : P.fit capacity = .ok out) :
    (out.units.flatMap PromotedUnit.linkNames).Nodup := by
  have hnames := hfresh.distinct
  rw [← Program.names_of_fit h] at hnames
  exact nodup_flatMap_linkNames_iff.mpr ((List.filter_sublist.map _).nodup hnames)

/-- A continuation is called once in the whole program. -/
theorem countP_callsOf_templates (h : P.fit capacity = .ok out) (hfresh : P.Fresh)
    {unit : Template} (hunit : unit ∈ P.units) {u : PromotedUnit} (hu : u ∈ out.units)
    (hname : u.name = unit.name) {n : Nat} (hpos : 1 ≤ n) (hn : n < u.templates.length) :
    (callsOf out.templates).countP (Call.runs (unit.name ++ "~" ++ toString n)) = 1 := by
  have hmem : unit.name ++ "~" ++ toString n ∈ out.units.flatMap PromotedUnit.linkNames := by
    rw [← hname]
    exact List.mem_flatMap.mpr ⟨u, hu, PromotedUnit.mem_linkNames.mpr ⟨n, ⟨hpos, hn⟩, rfl⟩⟩
  rw [Program.countP_callsOf h, hfresh.countP_callsOf hunit hpos,
    List.count_eq_one_of_mem (hfresh.nodup_linkNames h) hmem]

/-- A call in the program leads to no continuation. -/
theorem not_isLink_of_call (h : P.fit capacity = .ok out) (hfresh : P.Fresh) {unit : Template}
    (hunit : unit ∈ P.units) {i : Instruction}
    (hi : ∀ c, i = .call c → ∃ c' ∈ callsAll unit.body, c'.kind = c.kind ∧ c'.name = c.name) :
    ¬ IsLink out.templates i := by
  rintro ⟨c, rfl, t, ht, hcont, hruns⟩
  obtain ⟨c', hc', hkind, hname⟩ := hi c rfl
  obtain ⟨hfunction, hname'⟩ := Call.runs_iff.mp hruns
  have hentry : t.name ∈ (Continuations.ofTemplates out.templates).map Prod.fst := by
    rw [ofTemplates_eq_map_filter, List.map_map]
    exact List.mem_map.mpr ⟨t, List.mem_filter.mpr ⟨ht, hcont⟩, rfl⟩
  obtain ⟨v, hv, n, hn, heq⟩ := entryName_cases h hfresh hentry
  exact hfresh.uncalled unit hunit c' hc' (hkind.trans hfunction) v hv n hn
    (hname.trans (hname'.trans heq))

theorem exists_not_isLink (h : P.fit capacity = .ok out) (hfresh : P.Fresh) {unit : Template}
    (hunit : unit ∈ P.units) {t : Template} (ht : Begins (callsAll unit.body) t.body)
    (names : List String) : ∃ i ∈ (t.promote names).body, ¬ IsLink out.templates i := by
  obtain ⟨i, hi, hcalls⟩ := ht
  obtain ⟨f, hf⟩ : ∃ f, (t.promote names).body = t.body.map (mapValues f) :=
    ⟨_, mapValuesAll_eq_map _ _⟩
  refine ⟨i.mapValues f, ?_, not_isLink_of_call h hfresh hunit fun c hc => ?_⟩
  · rw [hf]
    exact List.mem_map_of_mem (List.mem_of_mem_head? hi)
  · obtain ⟨c', rfl, hkind, hname⟩ := mapValues_eq_call hc
    exact ⟨c', hcalls c' rfl, hkind, hname⟩

/-- The templates of a unit of a fitted program are linked to a tree. -/
theorem linkTree_of_fittedTo (h : P.fit capacity = .ok out) (hfresh : P.Fresh) {unit : Template}
    (hunit : unit ∈ P.units) {u : PromotedUnit} (hu : u ∈ out.units)
    (hfit : unit.FittedTo capacity u) : LinkTree unit u.templates out.templates := by
  obtain ⟨l, hl⟩ := hfit.laidOut
  refine ⟨?_, fun n => countP_callsOf_templates h hfresh hunit hu hl.name,
    fun n => hl.exists_caller, ?_⟩
  · rw [hl.headers_eq, PromotedUnit.linkNames, List.map_map, hl.name]
    rfl
  intro hne t ht
  obtain ⟨ts, hts, rfl⟩ := hfit
  obtain ⟨t', ht', rfl⟩ := List.mem_map.mp ht
  exact exists_not_isLink h hfresh hunit (begins_of_fit hts hne t' ht') _

/-- Reassembling a fitted program follows the links to their end. -/
theorem inlinesAll_reassemble (h : P.fit capacity = .ok out) (hfresh : P.Fresh) :
    List.Forall₂ (fun t unit => t.header = unit.header ∧
        InlinesAll (Continuations.ofTemplates out.templates) t.body unit.body)
      (out.templates.filter fun t => !t.header.isContinuation)
      (reassemble out.templates).units := by
  unfold reassemble
  rw [List.forall₂_map_right_iff, List.forall₂_same]
  intro t ht
  obtain ⟨unit, hunit, l, hjoined, -, rfl, hleads⟩ :=
    exists_of_mem_right (Program.forall₂_visible h hfresh) ht
  refine ⟨rfl, ?_⟩
  simp only [Template.mapValues, l.inlinedAll_held _ _ _ hleads]
  exact l.inlinesAll_held _ _ _ hleads

end

/-- **Linkage.** The templates of a fitted program are those of its units, one unit after the
other; those of a unit are linked to a tree; and following the links comes to an end, with the
program that reassembling gives. -/
theorem linkTree_of_fit {P : Program} {capacity : Nat} {out : FittedProgram}
    (h : P.fit capacity = .ok out) (hfresh : P.Fresh) :
    (∃ groups : List (List Template), out.templates = groups.flatten ∧
        List.Forall₂ (fun unit ts => LinkTree unit ts out.templates) P.units groups) ∧
      List.Forall₂ (fun t unit => t.header = unit.header ∧
          InlinesAll (Continuations.ofTemplates out.templates) t.body unit.body)
        (out.templates.filter fun t => !t.header.isContinuation)
        (reassemble out.templates).units := by
  refine ⟨⟨out.units.map PromotedUnit.templates, rfl, ?_⟩, inlinesAll_reassemble h hfresh⟩
  rw [List.forall₂_map_right_iff]
  obtain ⟨hlength, hunits⟩ := List.forall₂_iff_zip.mp (Program.units_of_fit h)
  refine List.forall₂_iff_zip.mpr ⟨hlength, fun {unit u} hmem => ?_⟩
  obtain ⟨hunit, hu⟩ := List.of_mem_zip hmem
  exact linkTree_of_fittedTo h hfresh hunit hu (hunits hmem)

/-- A loop and a template that hand over, and an else body that does. -/
theorem linkTree_sample :
    Sample.fitted.units.map (fun u => u.templates.length) = [3, 2] ∧
      (∃ groups : List (List Template), Sample.fitted.templates = groups.flatten ∧
        List.Forall₂ (fun unit ts => LinkTree unit ts Sample.fitted.templates)
          Sample.program.units groups) ∧
      List.Forall₂ (fun t unit => t.header = unit.header ∧
          InlinesAll (Continuations.ofTemplates Sample.fitted.templates) t.body unit.body)
        (Sample.fitted.templates.filter fun t => !t.header.isContinuation)
        (reassemble Sample.fitted.templates).units :=
  ⟨rfl, linkTree_of_fit Sample.program_fit Sample.program_fresh⟩

end Plotline
