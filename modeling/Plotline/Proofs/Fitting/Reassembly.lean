import Plotline.Proofs.Fitting.Names

/-!
# Reassembling undoes fitting

The templates of a fitted program, put together again, give the program back, with the promotions
made and nothing else changed (`reassemble_templates_of_fit`).

The argument is an induction on the layout of a unit: what a template holds, with calls replaced by
what they lead to, is what was laid out. Calls lead to templates behind the one at hand, so as many
replacements in a row as there are such templates are enough. The induction is done once, for every
relation that says what instructions become when calls are replaced in them (`Replacing`).
-/

namespace Plotline

open Instruction

/-! ## Replacing calls -/

theorem inlinedAll_append (body? : String → Option (List Instruction))
    (is js : List Instruction) :
    inlinedAll body? (is ++ js) = inlinedAll body? is ++ inlinedAll body? js := by
  induction is with
  | nil => rfl
  | cons i is ih => simp only [List.cons_append, inlinedAll, ih, List.append_assoc]

theorem mapValuesAll_append (f : Value → Value) (is js : List Instruction) :
    mapValuesAll f (is ++ js) = mapValuesAll f is ++ mapValuesAll f js := by
  induction is with
  | nil => rfl
  | cons i is ih => simp only [List.cons_append, mapValuesAll, ih]

/-! ## Following the calls of a layout -/

/-- The continuations lead through instructions that make the calls `calls` and are laid out with
the templates `ts`, their values changed by `f`, behind the one at hand: the templates are found by
their names, no other call is taken for a call of one of them, and `d` calls in a row are enough. -/
structure Leads (cs : Continuations) (f : Value → Value) (d : Nat) (calls : List Call)
    (ts : List Template) : Prop where
  depth : ts.length ≤ d
  known : ∀ t ∈ ts, cs.body? t.name = some (mapValuesAll f t.body)
  foreign : Foreign cs.body? calls

namespace Leads

variable {cs : Continuations} {f : Value → Value} {d : Nat} {calls calls' : List Call}
  {ts ts' : List Template}

theorem append (h : Leads cs f d (calls ++ calls') (ts ++ ts')) :
    Leads cs f d calls ts ∧ Leads cs f d calls' ts' := by
  obtain ⟨hdepth, hknown, hforeign⟩ := h
  rw [List.length_append] at hdepth
  rw [foreign_append] at hforeign
  refine ⟨⟨by omega, fun t ht => hknown t ?_, hforeign.1⟩,
    ⟨by omega, fun t ht => hknown t ?_, hforeign.2⟩⟩
  · exact List.mem_append_left ts' ht
  · exact List.mem_append_right ts ht

/-- Instructions that were not cut have no templates behind them. -/
theorem front (h : Leads cs f d (calls ++ calls') ts') :
    Leads cs f d calls [] ∧ Leads cs f d calls' ts' := append h

/-- The first template is reached over one call. -/
theorem cons {t : Template} (h : Leads cs f d calls (t :: ts)) :
    ∃ e, d = e + 1 ∧ cs.body? t.name = some (mapValuesAll f t.body) ∧ Leads cs f e calls ts := by
  obtain ⟨hdepth, hknown, hforeign⟩ := h
  rw [List.length_cons] at hdepth
  exact ⟨d - 1, by omega, hknown t List.mem_cons_self, by omega,
    fun t' ht' => hknown t' (List.mem_cons_of_mem t ht'), hforeign⟩

end Leads

/-! ## Replacing the calls of a layout -/

/-- A relation between instructions and what they give when at most `d` calls of continuations in a
row are replaced. -/
structure Replacing (cs : Continuations) (R : Nat → List Instruction → List Instruction → Prop) :
    Prop where
  nil : ∀ {d}, R d [] []
  append : ∀ {d is is' js js'}, R d is is' → R d js js' → R d (is ++ js) (is' ++ js')
  action : ∀ {d a}, R d [.action a] [.action a]
  call : ∀ {d c}, (c.kind = .function → cs.body? c.name = none) → R d [.call c] [.call c]
  link : ∀ {d c body is}, c.kind = .function → cs.body? c.name = some body → R d body is →
    R (d + 1) [.call c] is
  single : ∀ {d head setup setup' body body'}, R d setup setup' → R d body body' →
    R d [.bracket head setup body none] [.bracket head setup' body' none]
  double : ∀ {d head setup setup' body body' rest rest'}, R d setup setup' → R d body body' →
    R d rest rest' →
    R d [.bracket head setup body (some rest)] [.bracket head setup' body' (some rest')]

section

variable {cs : Continuations} {f : Value → Value} {d : Nat} {ts : List Template}
  {R : Nat → List Instruction → List Instruction → Prop}

mutual

/-- Nothing changes where no continuation is called. -/
theorem Replacing.foreign (hR : Replacing cs R) {d : Nat} : ∀ i : Instruction,
    Foreign cs.body? i.calls → R d [i] [i]
  | .action a, _ => hR.action
  | .call c, h => hR.call (h c List.mem_cons_self)
  | .bracket head setup body none, h => by
    rw [calls, foreign_append] at h
    exact hR.single (hR.foreignAll setup h.1) (hR.foreignAll body h.2)
  | .bracket head setup body (some rest), h => by
    rw [calls, foreign_append, foreign_append] at h
    exact hR.double (hR.foreignAll setup h.1.1) (hR.foreignAll body h.1.2)
      (hR.foreignAll rest h.2)

theorem Replacing.foreignAll (hR : Replacing cs R) {d : Nat} : ∀ is : List Instruction,
    Foreign cs.body? (callsAll is) → R d is is
  | [], _ => hR.nil
  | i :: is, h => by
    rw [callsAll, foreign_append] at h
    exact hR.append (hR.foreign i h.1) (hR.foreignAll is h.2)

end

/-- Instructions that were not cut give themselves. -/
theorem Leads.unchanged {is : List Instruction} (h : Leads cs f d (callsAll is) ts)
    (hR : Replacing cs R) : R d (mapValuesAll f is) (mapValuesAll f is) := by
  refine hR.foreignAll _ ?_
  rw [callsAll_mapValuesAll]
  exact foreign_map h.foreign f

variable (p : Plot)

mutual

/-- What a layout holds gives what was laid out. -/
theorem Layout.replacing_held (hR : Replacing cs R) : ∀ (l : Layout) {d : Nat},
    Leads cs f d (callsAll l.joined) (l.behind p) →
    R d (mapValuesAll f (l.held p)) (mapValuesAll f l.joined)
  | .done, _, h => h.unchanged hR
  | .node i rest, d, h => by
    obtain ⟨hi, hrest⟩ := Leads.front h
    have hsingle : Leads cs f d (callsAll [i]) [] := by
      rw [callsAll, callsAll, List.append_nil]
      exact hi
    exact hR.append (hsingle.unchanged hR) (rest.replacing_held hR hrest)
  | .cut b rest, d, h => by
    obtain ⟨hb, hrest⟩ := Leads.append h
    exact hR.append (b.replacing_held hR hb) (rest.replacing_held hR hrest)
  | .next n rest, d, h => by
    obtain ⟨e, rfl, hbody, hrest⟩ := Leads.cons h
    exact hR.link rfl hbody (rest.replacing_held hR hrest)

theorem CutBracket.replacing_held (hR : Replacing cs R) : ∀ (b : CutBracket) {d : Nat},
    Leads cs f d b.joined.calls (b.behind p) →
    R d [(b.held p).mapValues f] [b.joined.mapValues f]
  | .single head setup body, d, h => by
    obtain ⟨hsetup, hbody⟩ := Leads.front h
    exact hR.single (hsetup.unchanged hR) (body.replacing_held hR hbody)
  | .double head setup body other, d, h => by
    obtain ⟨h, hother⟩ := Leads.append h
    obtain ⟨hsetup, hbody⟩ := Leads.front h
    exact hR.double (hsetup.unchanged hR) (body.replacing_held hR hbody)
      (other.replacing_held hR hother)

theorem CutBody.replacing_held (hR : Replacing cs R) : ∀ (b : CutBody) {d : Nat},
    Leads cs f d (callsAll b.joined) (b.behind p) →
    R d (mapValuesAll f (b.held p)) (mapValuesAll f b.joined)
  | .whole is, d, h => h.unchanged hR
  | .split kept n rest, d, h => by
    rw [CutBody.joined, callsAll_append] at h
    obtain ⟨hkept, h⟩ := Leads.front h
    obtain ⟨e, rfl, hbody, hrest⟩ := Leads.cons h
    rw [CutBody.held, CutBody.joined, mapValuesAll_append, mapValuesAll_append]
    exact hR.append (hkept.unchanged hR) (hR.link rfl hbody (rest.replacing_held hR hrest))

end

end

/-- The function that replaces calls is such a relation. -/
theorem replacing_inlinedAll (cs : Continuations) :
    Replacing cs fun d is js => inlinedAll (cs.expanded? d) is = js where
  nil := rfl
  append his hjs := by rw [inlinedAll_append, his, hjs]
  action := rfl
  call := by
    rintro d ⟨kind, name, args⟩ hforeign
    cases kind with
    | process => rfl
    | function =>
      have hnone : cs.expanded? d name = none := by
        cases d with
        | zero => rfl
        | succ d => rw [Continuations.expanded?, hforeign rfl, Option.map_none]
      simp only [inlinedAll, inlined, hnone, Option.getD_none, List.append_nil]
  link := by
    rintro d ⟨kind, name, args⟩ body is rfl hbody his
    simp only [inlinedAll, inlined, Continuations.expanded?, hbody, Option.map_some,
      Option.getD_some, List.append_nil, his]
  single hsetup hbody := by simp only [inlinedAll, inlined, List.append_nil, hsetup, hbody]
  double hsetup hbody hrest := by
    simp only [inlinedAll, inlined, List.append_nil, hsetup, hbody, hrest]

theorem Layout.inlinedAll_held (p : Plot) (f : Value → Value) (cs : Continuations) (l : Layout)
    {d : Nat} (h : Leads cs f d (callsAll l.joined) (l.behind p)) :
    inlinedAll (cs.expanded? d) (mapValuesAll f (l.held p)) = mapValuesAll f l.joined :=
  l.replacing_held p (replacing_inlinedAll cs) h

theorem CutBracket.inlined_held (p : Plot) (f : Value → Value) (cs : Continuations) (b : CutBracket)
    {d : Nat} (h : Leads cs f d b.joined.calls (b.behind p)) :
    inlined (cs.expanded? d) ((b.held p).mapValues f) = [b.joined.mapValues f] := by
  have hheld := b.replacing_held p (replacing_inlinedAll cs) h
  rwa [inlinedAll, inlinedAll, List.append_nil] at hheld

/-! ## Promotions of a unit -/

/-- The value of a unit after the promotions: a line variable that they name has game scope. -/
def Value.widened (ps : List Promotion) (unit : String) : Value → Value
  | .variable ⟨name, .line⟩ => if ⟨unit, name⟩ ∈ ps then .var name .game else .var name .line
  | v => v

/-- The program after the promotions. -/
def Program.promoted (ps : List Promotion) (P : Program) : Program :=
  ⟨P.units.map fun u => u.mapValues (Value.widened ps u.name)⟩

/-- Where units have different names, the promotions under the name of a unit are its own. -/
theorem mem_promotions_iff {out : FittedProgram}
    (hnames : (out.units.map PromotedUnit.name).Nodup) {u : PromotedUnit} (hu : u ∈ out.units)
    (x : String) : ⟨u.name, x⟩ ∈ out.promotions ↔ x ∈ u.promoted := by
  constructor
  · intro h
    obtain ⟨v, hv, hx⟩ := List.mem_flatMap.mp h
    obtain ⟨y, hy, heq⟩ := List.mem_map.mp hx
    obtain ⟨hname, rfl⟩ := Promotion.mk.inj heq
    rwa [List.inj_on_of_nodup_map hnames hu hv hname.symm]
  · intro h
    exact List.mem_flatMap.mpr ⟨u, hu, List.mem_map_of_mem h⟩

theorem promote_eq_mapValues {ps : List Promotion} {unit : String} {names : List String}
    (h : ∀ x, ⟨unit, x⟩ ∈ ps ↔ x ∈ names) (t : Template) :
    t.promote names = t.mapValues (Value.widened ps unit) := by
  unfold Template.promote
  congr 1
  funext v
  match v with
  | .variable ⟨name, scope⟩ =>
    by_cases hname : name ∈ names
    · cases scope <;> simp [Value.mapScope, Value.widened, Value.var, Scope.promoted, h, hname]
    · cases scope <;> simp [Value.mapScope, Value.widened, Value.var, h, hname]
  | .text _ | .number _ | .location _ | .vector _ | .sound _ | .potion _ | .gameValue _
  | .particle _ | .tag _ | .item _ => rfl

/-! ## Reassembling a program -/

/-- Only the first template of a unit starts a unit. -/
theorem LaidOut.filter_visible {capacity : Nat} {unit : Template} {u : PromotedUnit} {l : Layout}
    (h : LaidOut capacity unit u l) (hvisible : unit.header.isContinuation = false) :
    u.templates.filter (fun t => !t.header.isContinuation) =
      [⟨unit.header, l.held ⟨capacity, unit.name⟩⟩].map (Template.promote u.promoted) := by
  have hbehind : ∀ t ∈ (l.behind ⟨capacity, unit.name⟩).map (Template.promote u.promoted),
      ¬ (!t.header.isContinuation) = true := by
    intro t ht
    obtain ⟨t', ht', rfl⟩ := List.mem_map.mp ht
    show ¬ (!t'.header.isContinuation) = true
    rw [Layout.isContinuation_of_mem_behind ht']
    exact Bool.false_ne_true
  rw [h.templates, Layout.templates, List.map_cons, List.filter_cons_of_pos,
    List.filter_eq_nil_iff.mpr hbehind]
  · rfl
  · show (!unit.header.isContinuation) = true
    rw [hvisible]
    rfl

section

variable {P : Program} {capacity : Nat} {out : FittedProgram} {unit : Template}
  {u : PromotedUnit} {l : Layout}

/-- The templates of a unit are promoted by what the promotions say about its name. -/
theorem LaidOut.promote_eq (hl : LaidOut capacity unit u l) (h : P.fit capacity = .ok out)
    (hfresh : P.Fresh) (hu : u ∈ out.units) (t : Template) :
    t.promote u.promoted = t.mapValues (Value.widened out.promotions unit.name) := by
  have hnames : (out.units.map PromotedUnit.name).Nodup := by
    rw [Program.names_of_fit h]
    exact hfresh.distinct
  exact promote_eq_mapValues (fun x => hl.name ▸ mem_promotions_iff hnames hu x) t

/-- The continuations of a program lead through each of its units. -/
theorem LaidOut.leads (hl : LaidOut capacity unit u l) (h : P.fit capacity = .ok out)
    (hfresh : P.Fresh) (hunit : unit ∈ P.units) (hu : u ∈ out.units) :
    Leads (Continuations.ofTemplates out.templates) (Value.widened out.promotions unit.name)
      (Continuations.ofTemplates out.templates).length (callsAll l.joined)
      (l.behind ⟨capacity, unit.name⟩) where
  depth := length_behind_le (hfresh.visible unit hunit) hu hl
  known := by
    intro t ht
    rw [body?_of_mem_behind h hfresh hunit hu hl ht, hl.promote_eq h hfresh hu]
    rfl
  foreign := by
    intro c hc hkind
    rw [hl.joined] at hc
    exact body?_of_call h hfresh hunit hc hkind

end

/-- The templates of a fitted program that start its units. -/
theorem Program.forall₂_visible {P : Program} {capacity : Nat} {out : FittedProgram}
    (h : P.fit capacity = .ok out) (hfresh : P.Fresh) :
    List.Forall₂ (fun unit t => ∃ l : Layout, l.joined = unit.body ∧ l.Guarded ∧
        t = (⟨unit.header, l.held ⟨capacity, unit.name⟩⟩ : Template).mapValues
          (Value.widened out.promotions unit.name) ∧
        Leads (Continuations.ofTemplates out.templates) (Value.widened out.promotions unit.name)
          (Continuations.ofTemplates out.templates).length (callsAll l.joined)
          (l.behind ⟨capacity, unit.name⟩))
      P.units (out.templates.filter fun t => !t.header.isContinuation) := by
  nth_rewrite 3 [FittedProgram.templates]
  rw [List.filter_flatMap]
  refine forall₂_flatMap (Program.units_of_fit h) fun unit hunit u hu hfit => ?_
  obtain ⟨l, hl⟩ := hfit.laidOut
  refine ⟨_, hl.filter_visible (hfresh.visible unit hunit), l, hl.joined, hl.guarded,
    hl.promote_eq h hfresh hu _, hl.leads h hfresh hunit hu⟩

/-- **Reassembly.** The templates of a fitted program, put together, are the program after the
promotions. -/
theorem reassemble_templates_of_fit {P : Program} {capacity : Nat} {out : FittedProgram}
    (h : P.fit capacity = .ok out) (hfresh : P.Fresh) :
    reassemble out.templates = P.promoted out.promotions := by
  have hvisible := Program.forall₂_visible h hfresh
  unfold reassemble Program.promoted
  simp only [Program.mk.injEq]
  generalize out.templates.filter (fun t => !t.header.isContinuation) = ts, P.units = units
    at hvisible ⊢
  induction hvisible with
  | nil => rfl
  | cons hunit _ ih =>
    obtain ⟨l, hjoined, -, rfl, hleads⟩ := hunit
    rw [List.map_cons, List.map_cons, ih]
    simp only [Template.mapValues, l.inlinedAll_held _ _ _ hleads, hjoined]

/-- A cut loop and a cut else body come together again, and `x` has game scope. -/
theorem reassemble_sample :
    Sample.fitted.promotions = [⟨"event.Join", "x"⟩] ∧
      reassemble Sample.fitted.templates = Sample.program.promoted [⟨"event.Join", "x"⟩] :=
  ⟨rfl, reassemble_templates_of_fit Sample.program_fit Sample.program_fresh⟩

end Plotline
