import Plotline.Proofs.Fitting.Capacity
import Plotline.Proofs.Fitting.Linkage

/-!
# Brackets that stay whole

A bracket is cut only if it is too heavy for a template of its own: it takes more slots than a
template has besides its header and a call. So a lighter bracket stands in one template as it was
written, at any depth and whatever becomes of the brackets around it (`brackets_whole_of_fit`).

The argument is a balance over the layout of a unit (`Layout.countP_brackets`): the templates have
the brackets of the unit, except that each bracket that was cut stands there as what the cut has
left of it. What is left always ends with a call of a continuation, and what was cut was too heavy.
-/

namespace Plotline

open Instruction

/-! ## Brackets at any depth -/

mutual

/-- The brackets in an instruction and in all that is nested in it, setups included. -/
def Instruction.brackets : Instruction → List Instruction
  | .action _ | .call _ => []
  | .bracket head setup body none =>
    .bracket head setup body none :: (bracketsAll setup ++ bracketsAll body)
  | .bracket head setup body (some rest) =>
    .bracket head setup body (some rest) ::
      (bracketsAll setup ++ bracketsAll body ++ bracketsAll rest)

def Instruction.bracketsAll : List Instruction → List Instruction
  | [] => []
  | i :: is => brackets i ++ bracketsAll is

end

/-- The brackets in templates, at any depth. -/
def bracketsOf (ts : List Template) : List Instruction := ts.flatMap fun t => bracketsAll t.body

theorem bracketsOf_cons (t : Template) (ts : List Template) :
    bracketsOf (t :: ts) = bracketsAll t.body ++ bracketsOf ts := rfl

theorem Layout.bracketsOf_templates (p : Plot) (header : Header) (l : Layout) :
    bracketsOf (l.templates p header) = bracketsAll (l.held p) ++ bracketsOf (l.behind p) := rfl

theorem bracketsOf_append (ts us : List Template) :
    bracketsOf (ts ++ us) = bracketsOf ts ++ bracketsOf us := List.flatMap_append

theorem bracketsAll_append (is js : List Instruction) :
    bracketsAll (is ++ js) = bracketsAll is ++ bracketsAll js := by
  induction is with
  | nil => rfl
  | cons i is ih => simp only [List.cons_append, bracketsAll, ih, List.append_assoc]

mutual

theorem brackets_mapValues (f : Value → Value) : ∀ i : Instruction,
    (i.mapValues f).brackets = i.brackets.map (mapValues f)
  | .action _ => rfl
  | .call _ => rfl
  | .bracket head setup body none => by
    simp only [mapValues, brackets, bracketsAll_mapValuesAll f setup,
      bracketsAll_mapValuesAll f body, List.map_cons, List.map_append]
  | .bracket head setup body (some rest) => by
    simp only [mapValues, brackets, bracketsAll_mapValuesAll f setup,
      bracketsAll_mapValuesAll f body, bracketsAll_mapValuesAll f rest, List.map_cons,
      List.map_append]

theorem bracketsAll_mapValuesAll (f : Value → Value) : ∀ is : List Instruction,
    bracketsAll (mapValuesAll f is) = (bracketsAll is).map (mapValues f)
  | [] => rfl
  | i :: is => by
    simp only [mapValuesAll, bracketsAll, brackets_mapValues f i, bracketsAll_mapValuesAll f is,
      List.map_append]

end

mutual

/-- A bracket makes no calls that the instruction around it does not make. -/
theorem calls_subset_of_mem_brackets : ∀ (i : Instruction), ∀ b ∈ i.brackets, b.calls ⊆ i.calls
  | .action _, b, hb => by cases hb
  | .call _, b, hb => by cases hb
  | .bracket head setup body none, b, hb => by
    rw [brackets, List.mem_cons, List.mem_append] at hb
    rcases hb with rfl | hb | hb
    · exact List.Subset.refl _
    · rw [calls]
      exact List.subset_append_of_subset_left _ (calls_subset_of_mem_bracketsAll setup b hb)
    · rw [calls]
      exact List.subset_append_of_subset_right _ (calls_subset_of_mem_bracketsAll body b hb)
  | .bracket head setup body (some rest), b, hb => by
    rw [brackets, List.mem_cons, List.mem_append, List.mem_append] at hb
    rcases hb with rfl | (hb | hb) | hb
    · exact List.Subset.refl _
    · rw [calls, List.append_assoc]
      exact List.subset_append_of_subset_left _ (calls_subset_of_mem_bracketsAll setup b hb)
    · rw [calls]
      exact List.subset_append_of_subset_left _ (List.subset_append_of_subset_right _
        (calls_subset_of_mem_bracketsAll body b hb))
    · rw [calls]
      exact List.subset_append_of_subset_right _ (calls_subset_of_mem_bracketsAll rest b hb)

theorem calls_subset_of_mem_bracketsAll : ∀ (is : List Instruction), ∀ b ∈ bracketsAll is,
    b.calls ⊆ callsAll is
  | [], b, hb => by cases hb
  | i :: is, b, hb => by
    rw [bracketsAll, List.mem_append] at hb
    rw [callsAll]
    rcases hb with hb | hb
    · exact List.subset_append_of_subset_left _ (calls_subset_of_mem_brackets i b hb)
    · exact List.subset_append_of_subset_right _ (calls_subset_of_mem_bracketsAll is b hb)

end

/-! ## The balance of a layout -/

section

variable (p : Plot) (q : Instruction → Bool)

mutual

/-- The templates of a layout have the brackets of what is laid out, but for those that were cut. -/
theorem Layout.countP_brackets : ∀ l : Layout,
    (bracketsAll (l.held p)).countP q + (bracketsOf (l.behind p)).countP q +
        (l.cuts.map CutBracket.joined).countP q =
      (bracketsAll l.joined).countP q + (l.cuts.map (CutBracket.held p)).countP q
  | .done => rfl
  | .node i rest => by
    have hrest := rest.countP_brackets
    simp only [Layout.held, Layout.behind, Layout.joined, Layout.cuts, bracketsAll,
      List.countP_append]
    omega
  | .cut b rest => by
    have hb := b.countP_brackets
    have hrest := rest.countP_brackets
    simp only [Layout.held, Layout.behind, Layout.joined, Layout.cuts, bracketsAll,
      bracketsOf_append, List.map_cons, List.map_append, List.countP_append,
      List.countP_cons] at hb ⊢
    omega
  | .next n rest => by
    have hrest := rest.countP_brackets
    simp only [Layout.held, Layout.behind, Layout.joined, Layout.cuts, bracketsOf_cons,
      List.countP_append, Plot.link, bracketsAll, brackets, List.countP_nil]
    omega

theorem CutBracket.countP_brackets : ∀ b : CutBracket,
    (b.held p).brackets.countP q + (bracketsOf (b.behind p)).countP q +
        (b.joined :: b.cuts.map CutBracket.joined).countP q =
      b.joined.brackets.countP q + (b.held p :: b.cuts.map (CutBracket.held p)).countP q
  | .single head setup body => by
    have hbody := body.countP_brackets
    simp only [CutBracket.held, CutBracket.behind, CutBracket.joined, CutBracket.cuts, brackets,
      List.countP_append, List.countP_cons]
    omega
  | .double head setup body other => by
    have hbody := body.countP_brackets
    have hother := other.countP_brackets
    simp only [CutBracket.held, CutBracket.behind, CutBracket.joined, CutBracket.cuts, brackets,
      bracketsOf_append, List.map_append, List.countP_append, List.countP_cons]
    omega

theorem CutBody.countP_brackets : ∀ b : CutBody,
    (bracketsAll (b.held p)).countP q + (bracketsOf (b.behind p)).countP q +
        (b.cuts.map CutBracket.joined).countP q =
      (bracketsAll b.joined).countP q + (b.cuts.map (CutBracket.held p)).countP q
  | .whole is => rfl
  | .split kept n rest => by
    have hrest := rest.countP_brackets
    simp only [CutBody.held, CutBody.behind, CutBody.joined, CutBody.cuts, bracketsAll_append,
      bracketsOf_cons, List.countP_append, Plot.link, bracketsAll, brackets, List.countP_nil]
    omega

end

end

/-- A bracket in a template is one of what is laid out, or what a cut has left of one. -/
theorem Layout.mem_bracketsOf_templates {p : Plot} {header : Header} {l : Layout} {b : Instruction}
    (hb : b ∈ bracketsOf (l.templates p header)) :
    b ∈ bracketsAll l.joined ∨ ∃ c ∈ l.cuts, c.held p = b := by
  have hbalance := l.countP_brackets p (· = b)
  have hpos : 0 < (bracketsOf (l.templates p header)).countP (· = b) :=
    List.countP_pos_iff.mpr ⟨b, hb, decide_eq_true rfl⟩
  rw [Layout.bracketsOf_templates, List.countP_append] at hpos
  by_cases hjoined : b ∈ bracketsAll l.joined
  · exact Or.inl hjoined
  · have hzero : (bracketsAll l.joined).countP (· = b) = 0 := by
      rw [List.countP_eq_zero]
      intro i hi heq
      exact hjoined (of_decide_eq_true heq ▸ hi)
    have hcut : 0 < (l.cuts.map (CutBracket.held p)).countP (· = b) := by omega
    obtain ⟨i, hi, heq⟩ := List.countP_pos_iff.mp hcut
    obtain ⟨c, hc, rfl⟩ := List.mem_map.mp hi
    exact Or.inr ⟨c, hc, of_decide_eq_true heq⟩

/-- Brackets of a kind that cuts neither take nor leave are all there. -/
theorem Layout.countP_bracketsOf_templates {p : Plot} {header : Header} {l : Layout}
    {q : Instruction → Bool} (hjoined : ∀ c ∈ l.cuts, ¬ q c.joined = true)
    (hheld : ∀ c ∈ l.cuts, ¬ q (c.held p) = true) :
    (bracketsOf (l.templates p header)).countP q = (bracketsAll l.joined).countP q := by
  have hbalance := l.countP_brackets p q
  have htaken : (l.cuts.map CutBracket.joined).countP q = 0 :=
    List.countP_eq_zero.mpr (List.forall_mem_map.mpr hjoined)
  have hleft : (l.cuts.map (CutBracket.held p)).countP q = 0 :=
    List.countP_eq_zero.mpr (List.forall_mem_map.mpr hheld)
  rw [Layout.bracketsOf_templates, List.countP_append]
  omega

/-! ## Cuts and the calls that they leave -/

theorem Leads.mono {cs : Continuations} {f : Value → Value} {d e : Nat} {calls : List Call}
    {ts : List Template} (h : Leads cs f d calls ts) (hde : d ≤ e) : Leads cs f e calls ts :=
  ⟨Nat.le_trans h.depth hde, h.known, h.foreign⟩

section

variable (p : Plot) (f : Value → Value) (cs : Continuations)

mutual

/-- Continuations that lead through a layout lead through each bracket that was cut in it. -/
theorem Layout.leads_of_mem_cuts : ∀ (l : Layout) {d : Nat},
    Leads cs f d (callsAll l.joined) (l.behind p) →
    ∀ b ∈ l.cuts, Leads cs f d b.joined.calls (b.behind p)
  | .done, _, _, b, hb => by cases hb
  | .node i rest, d, h, b, hb => by
    obtain ⟨-, hrest⟩ := Leads.front h
    exact rest.leads_of_mem_cuts hrest b hb
  | .cut c rest, d, h, b, hb => by
    obtain ⟨hc, hrest⟩ := Leads.append h
    rw [Layout.cuts, List.mem_cons, List.mem_append] at hb
    rcases hb with rfl | hb | hb
    · exact hc
    · exact c.leads_of_mem_cuts hc b hb
    · exact rest.leads_of_mem_cuts hrest b hb
  | .next n rest, d, h, b, hb => by
    obtain ⟨e, rfl, -, hrest⟩ := Leads.cons h
    exact (rest.leads_of_mem_cuts hrest b hb).mono (Nat.le_succ e)

theorem CutBracket.leads_of_mem_cuts : ∀ (c : CutBracket) {d : Nat},
    Leads cs f d c.joined.calls (c.behind p) →
    ∀ b ∈ c.cuts, Leads cs f d b.joined.calls (b.behind p)
  | .single head setup body, d, h, b, hb => by
    obtain ⟨-, hbody⟩ := Leads.front h
    exact body.leads_of_mem_cuts hbody b hb
  | .double head setup body other, d, h, b, hb => by
    obtain ⟨h, hother⟩ := Leads.append h
    obtain ⟨-, hbody⟩ := Leads.front h
    rcases List.mem_append.mp hb with hb | hb
    · exact body.leads_of_mem_cuts hbody b hb
    · exact other.leads_of_mem_cuts hother b hb

theorem CutBody.leads_of_mem_cuts : ∀ (c : CutBody) {d : Nat},
    Leads cs f d (callsAll c.joined) (c.behind p) →
    ∀ b ∈ c.cuts, Leads cs f d b.joined.calls (b.behind p)
  | .whole is, _, _, b, hb => by cases hb
  | .split kept n rest, d, h, b, hb => by
    rw [CutBody.joined, callsAll_append] at h
    obtain ⟨-, h⟩ := Leads.front h
    obtain ⟨e, rfl, -, hrest⟩ := Leads.cons h
    exact (rest.leads_of_mem_cuts hrest b hb).mono (Nat.le_succ e)

end

end

/-- A body of the bracket ends with a call of a continuation among the templates. -/
def HandsOver (ts : List Template) (b : Instruction) : Prop :=
  ∃ is ∈ b.bodies, ∃ i, is.getLast? = some i ∧ IsLink ts i

/-- A name under which a continuation is found is one of a continuation. -/
theorem isLink_of_body? {ts : List Template} {c : Call} {body : List Instruction}
    (hkind : c.kind = .function) (h : (Continuations.ofTemplates ts).body? c.name = some body) :
    IsLink ts (.call c) := by
  have hmem := Continuations.mem_of_body?_eq_some h
  rw [ofTemplates_eq_map_filter] at hmem
  obtain ⟨t, ht, heq⟩ := List.mem_map.mp hmem
  obtain ⟨htmem, hcont⟩ := List.mem_filter.mp ht
  have hname : c.name = t.name := (congrArg Prod.fst heq).symm
  exact ⟨c, rfl, t, htmem, hcont, Call.runs_iff.mpr ⟨hkind, hname⟩⟩

/-- A body that is split ends with a call of the first template behind it. -/
theorem CutBody.exists_link {p : Plot} {b : CutBody} (h : b.isSplit = true) :
    ∃ n, (b.held p).getLast? = some (p.link n) ∧ ∃ t ∈ b.behind p, t.name = p.continuation n := by
  cases b with
  | whole is => cases h
  | split kept n rest => exact ⟨n, List.getLast?_concat, _, List.mem_cons_self, rfl⟩

theorem CutBracket.exists_link {p : Plot} {b : CutBracket} (h : b.isSplit = true) :
    ∃ is ∈ (b.held p).bodies, ∃ n, is.getLast? = some (p.link n) ∧
      ∃ t ∈ b.behind p, t.name = p.continuation n := by
  cases b with
  | single head setup body =>
    obtain ⟨n, hlast, hbehind⟩ := CutBody.exists_link (p := p) h
    exact ⟨_, List.mem_singleton_self _, n, hlast, hbehind⟩
  | double head setup body other =>
    rw [CutBracket.isSplit, Bool.or_eq_true] at h
    rcases h with h | h
    · obtain ⟨n, hlast, t, ht, hname⟩ := CutBody.exists_link (p := p) h
      exact ⟨_, List.mem_cons_self, n, hlast, t, List.mem_append_left _ ht, hname⟩
    · obtain ⟨n, hlast, t, ht, hname⟩ := CutBody.exists_link (p := p) h
      exact ⟨_, List.mem_cons_of_mem _ List.mem_cons_self, n, hlast, t,
        List.mem_append_right _ ht, hname⟩

/-- What is left of a bracket out of which something has moved hands over. -/
theorem CutBracket.handsOver {p : Plot} {f : Value → Value} {d : Nat} {ts : List Template}
    {b : CutBracket} (hsplit : b.isSplit = true)
    (hleads : Leads (Continuations.ofTemplates ts) f d b.joined.calls (b.behind p)) :
    HandsOver ts ((b.held p).mapValues f) := by
  obtain ⟨is, his, n, hlast, t, ht, hname⟩ := b.exists_link (p := p) hsplit
  have hbody := hleads.known t ht
  rw [hname] at hbody
  refine ⟨mapValuesAll f is, ?_, (p.link n).mapValues f, getLast?_mapValuesAll hlast, ?_⟩
  · rw [bodies_mapValues]
    exact List.mem_map_of_mem his
  · exact isLink_of_body? rfl hbody

theorem mem_callsAll_of_mem {c : Call} {is : List Instruction} (h : .call c ∈ is) :
    c ∈ callsAll is := by
  obtain ⟨js, ks, rfl⟩ := List.append_of_mem h
  rw [callsAll_append, callsAll]
  exact List.mem_append_right _ (List.mem_append_left _ List.mem_cons_self)

theorem callsAll_subset_of_mem_bodies {i : Instruction} {is : List Instruction}
    (h : is ∈ i.bodies) : callsAll is ⊆ i.calls := by
  cases i with
  | action a => cases h
  | call c => cases h
  | bracket head setup body rest =>
    cases rest with
    | none =>
      obtain rfl := List.mem_singleton.mp h
      exact List.subset_append_right _ _
    | some rest =>
      rw [bodies, List.mem_pair] at h
      rw [calls]
      rcases h with rfl | rfl
      · exact List.subset_append_of_subset_left _ (List.subset_append_right _ _)
      · exact List.subset_append_right _ _

/-! ## Brackets of a fitted program -/

theorem Template.FittedTo.neededLayout {capacity : Nat} {unit : Template} {u : PromotedUnit}
    (h : unit.FittedTo capacity u) :
    ∃ l, LaidOut capacity unit u l ∧ ∀ b ∈ l.cuts, b.Needed capacity := by
  obtain ⟨ts, hfit, rfl⟩ := h
  obtain ⟨l, hjoined, hnum, hguard, hcuts, rfl⟩ := neededLayout_of_fit hfit
  exact ⟨l, ⟨hjoined, hnum, hguard, rfl, rfl⟩, hcuts⟩

section

variable {P : Program} {capacity : Nat} {out : FittedProgram} {unit : Template}
  {u : PromotedUnit} {l : Layout}

/-- A bracket of the program does not hand over. -/
theorem not_handsOver_of_mem (h : P.fit capacity = .ok out) (hfresh : P.Fresh)
    (hunit : unit ∈ P.units) {b : Instruction} (hb : b ∈ bracketsAll unit.body)
    (f : Value → Value) : ¬ HandsOver out.templates (b.mapValues f) := by
  rintro ⟨is, his, i, hlast, hlink⟩
  rw [bodies_mapValues] at his
  obtain ⟨js, hjs, rfl⟩ := List.mem_map.mp his
  rw [mapValuesAll_eq_map, List.getLast?_map] at hlast
  obtain ⟨i, hi, rfl⟩ := Option.map_eq_some_iff.mp hlast
  refine not_isLink_of_call h hfresh hunit (fun c hc => ?_) hlink
  obtain ⟨c', rfl, hkind, hname⟩ := mapValues_eq_call hc
  have hcall : c' ∈ b.calls :=
    callsAll_subset_of_mem_bodies hjs (mem_callsAll_of_mem (List.mem_of_getLast? hi))
  exact ⟨c', calls_subset_of_mem_bracketsAll unit.body b hb hcall, hkind, hname⟩

/-- The brackets in the templates of a unit, before the promotions. -/
theorem LaidOut.bracketsOf_templates (hl : LaidOut capacity unit u l)
    (h : P.fit capacity = .ok out) (hfresh : P.Fresh) (hu : u ∈ out.units) :
    bracketsOf u.templates =
      (bracketsOf (l.templates ⟨capacity, unit.name⟩ unit.header)).map
        (mapValues (Value.widened out.promotions unit.name)) := by
  rw [hl.templates, bracketsOf, bracketsOf, List.flatMap_map, List.map_flatMap]
  congr 1
  funext t
  rw [hl.promote_eq h hfresh hu]
  exact bracketsAll_mapValuesAll _ _

/-- A bracket that hands over is what is left of one that had to be cut. -/
theorem LaidOut.exists_cut_of_handsOver (hl : LaidOut capacity unit u l)
    (h : P.fit capacity = .ok out) (hfresh : P.Fresh) (hunit : unit ∈ P.units)
    (hu : u ∈ out.units) {b : Instruction} (hb : b ∈ bracketsOf u.templates)
    (hover : HandsOver out.templates b) :
    ∃ c ∈ l.cuts, b = (c.held ⟨capacity, unit.name⟩).mapValues
      (Value.widened out.promotions unit.name) := by
  rw [hl.bracketsOf_templates h hfresh hu] at hb
  obtain ⟨i, hi, rfl⟩ := List.mem_map.mp hb
  rcases Layout.mem_bracketsOf_templates hi with hi | ⟨c, hc, rfl⟩
  · rw [hl.joined] at hi
    exact absurd hover (not_handsOver_of_mem h hfresh hunit hi _)
  · exact ⟨c, hc, rfl⟩

/-- A bracket that is light enough stands in the templates as often as in the unit. -/
theorem LaidOut.count_brackets (hl : LaidOut capacity unit u l)
    (hcuts : ∀ c ∈ l.cuts, c.Needed capacity) (h : P.fit capacity = .ok out) (hfresh : P.Fresh)
    (hunit : unit ∈ P.units) (hu : u ∈ out.units) {b : Instruction}
    (hb : b ∈ bracketsAll (mapValuesAll (Value.widened out.promotions unit.name) unit.body))
    (hlight : b.weight + 2 ≤ capacity) :
    (bracketsOf u.templates).count b =
      (bracketsAll (mapValuesAll (Value.widened out.promotions unit.name) unit.body)).count b := by
  rw [bracketsAll_mapValuesAll] at hb
  obtain ⟨i, hi, rfl⟩ := List.mem_map.mp hb
  rw [hl.bracketsOf_templates h hfresh hu, bracketsAll_mapValuesAll, List.count_eq_countP,
    List.count_eq_countP, List.countP_map, List.countP_map, ← hl.joined]
  apply Layout.countP_bracketsOf_templates
  · -- what was cut is heavier
    intro c hc heq
    have hheavy := (hcuts c hc).heavy
    rw [← weight_mapValues (Value.widened out.promotions unit.name), eq_of_beq heq] at hheavy
    omega
  · -- what a cut has left hands over, and the bracket does not
    intro c hc heq
    have hover := CutBracket.handsOver (hcuts c hc).split
      (l.leads_of_mem_cuts _ _ _ (hl.leads h hfresh hunit hu) c hc)
    rw [show mapValues _ _ = _ from eq_of_beq heq] at hover
    exact not_handsOver_of_mem h hfresh hunit hi _ hover

end

/-- **Whole brackets.** A bracket in a template that hands over to a continuation is, with all
continuations put in, too heavy to stand in a template before a call. And a bracket of the program
that is light enough stands whole in the templates of its unit, as often as in the unit. -/
theorem brackets_whole_of_fit {P : Program} {capacity : Nat} {out : FittedProgram}
    (h : P.fit capacity = .ok out) (hfresh : P.Fresh) :
    (∀ t ∈ out.templates, ∀ b ∈ bracketsAll t.body, HandsOver out.templates b →
        ∃ b', Inlines (Continuations.ofTemplates out.templates) b [b'] ∧
          inlined ((Continuations.ofTemplates out.templates).expanded?
            (Continuations.ofTemplates out.templates).length) b = [b'] ∧
          capacity < b'.weight + 2) ∧
      List.Forall₂ (fun unit u => ∀ b ∈ bracketsAll unit.body, b.weight + 2 ≤ capacity →
          (bracketsOf u.templates).count b = (bracketsAll unit.body).count b)
        (P.promoted out.promotions).units out.units := by
  have hunits := Program.units_of_fit h
  constructor
  · intro t ht b hb hover
    obtain ⟨u, hu, htu⟩ := List.mem_flatMap.mp ht
    obtain ⟨unit, hunit, hfit⟩ := exists_of_mem_right hunits hu
    obtain ⟨l, hl, hcuts⟩ := hfit.neededLayout
    have hbu : b ∈ bracketsOf u.templates := List.mem_flatMap.mpr ⟨t, htu, hb⟩
    obtain ⟨c, hc, rfl⟩ := hl.exists_cut_of_handsOver h hfresh hunit hu hbu hover
    have hleads := l.leads_of_mem_cuts _ _ _ (hl.leads h hfresh hunit hu) c hc
    refine ⟨_, c.inlines_held _ _ _ hleads, c.inlined_held _ _ _ hleads, ?_⟩
    rw [weight_mapValues]
    exact (hcuts c hc).heavy
  · rw [Program.promoted, List.forall₂_map_left_iff]
    obtain ⟨hlength, hfits⟩ := List.forall₂_iff_zip.mp hunits
    refine List.forall₂_iff_zip.mpr ⟨hlength, fun {unit u} hmem b hb hlight => ?_⟩
    obtain ⟨hunit, hu⟩ := List.of_mem_zip hmem
    obtain ⟨l, hl, hcuts⟩ := (hfits hmem).neededLayout
    exact hl.count_brackets hcuts h hfresh hunit hu hb hlight

namespace Sample

/-- A branch of five slots in the loop of the sample. -/
def leaving : Instruction := sneaking [update "=" .game] [control "StopRepeat"] none

/-- What is left of the loop. -/
def cutLoop : Instruction := forever [update "+=" .game, leaving, .call (.link "event.Join~1")]

theorem cutLoop_handsOver : HandsOver fitted.templates cutLoop :=
  ⟨_, List.mem_singleton_self _, _, rfl, _, rfl, _,
    List.mem_cons_of_mem _ List.mem_cons_self, rfl, by decide⟩

end Sample

/-- A loop is cut on twelve slots, and the branch in it stays whole. -/
theorem brackets_whole_sample :
    (∃ b', Inlines (Continuations.ofTemplates Sample.fitted.templates) Sample.cutLoop [b'] ∧
        12 < b'.weight + 2) ∧
      List.Forall₂ (fun unit u => Sample.leaving ∈ bracketsAll unit.body →
          (bracketsOf u.templates).count Sample.leaving =
            (bracketsAll unit.body).count Sample.leaving)
        (Sample.program.promoted Sample.fitted.promotions).units Sample.fitted.units ∧
      (Sample.program.promoted Sample.fitted.promotions).units.map
        (fun unit => (bracketsAll unit.body).count Sample.leaving) = [1, 0] := by
  obtain ⟨hcut, hlight⟩ := brackets_whole_of_fit Sample.program_fit Sample.program_fresh
  obtain ⟨b', hinlines, -, hheavy⟩ := hcut _ List.mem_cons_self Sample.cutLoop
    List.mem_cons_self Sample.cutLoop_handsOver
  refine ⟨⟨b', hinlines, hheavy⟩, hlight.imp fun _ _ hcount hmem => hcount _ hmem ?_, ?_⟩
  · decide
  · decide

end Plotline
