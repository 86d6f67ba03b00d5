import Plotline.Proofs.Fitting.Sites

/-!
# Exits keep their target

An exit of a loop acts on the innermost loop of its own template, and a return ends the function
that its template is. So cutting a unit is safe for exits only when

* no call of a continuation stands between an exit of a loop and the innermost loop around it
  (`Site.AtHome`), and
* a continuation with a return is entered only over calls at the end of templates
  (`Site.OnMainLine`), so that nothing is left to do when the return ends it.

`exits_keep_target` shows this for the sites of every fitted program whose setups hold nothing but
assignments. The cut at one bracket looks at the exits of what it moves, once; that later cuts of
the moved part keep its exits too is the induction on the layout.
-/

namespace Plotline

open Instruction

/-! ## What exits need -/

def Passage.isSetup : Passage → Bool
  | .setup _ => true
  | .body _ | .otherwise _ | .next _ | .aside _ => false

namespace Site

def InSetup (s : Site) : Prop := ∃ q ∈ s.path, q.isSetup = true

def InLoop (s : Site) : Prop := ∃ q ∈ s.path, q.entersLoop = true

/-- No call stands between the action and the innermost loop around it. -/
def AtHome (s : Site) : Prop :=
  ∀ front q back, s.path = front ++ q :: back → q.entersLoop = true →
    (∀ r ∈ back, r.entersLoop = false) → ∀ r ∈ back, r.link? = none

/-- Every call on the way stands at the end of a template. -/
def OnMainLine (s : Site) : Prop := ∀ name, .aside name ∉ s.path

/-- The exit at the site, if there is one, keeps its target. -/
def KeepsTarget (s : Site) : Prop :=
  (s.action.exit? = some .stop ∨ s.action.exit? = some .skip → s.AtHome) ∧
    (s.action.exit? = some .leave → s.OnMainLine)

end Site

theorem inLoop_under {s : Site} (h : s.InLoop) (q : Passage) : (s.under q).InLoop := by
  obtain ⟨r, hr, hloop⟩ := h
  exact ⟨r, List.mem_cons_of_mem q hr, hloop⟩

theorem inSetup_under {s : Site} (h : s.InSetup) (q : Passage) : (s.under q).InSetup := by
  obtain ⟨r, hr, hsetup⟩ := h
  exact ⟨r, List.mem_cons_of_mem q hr, hsetup⟩

theorem atHome_of_uncut {s : Site} (h : s.Uncut) : s.AtHome := by
  intro front q back hpath _ _ r hr
  refine h r ?_
  rw [hpath]
  exact List.mem_append_right front (List.mem_cons_of_mem q hr)

/-- A step into a loop must not be followed by a call, unless another loop comes first. -/
theorem atHome_under {q : Passage} {s : Site} (hs : s.AtHome)
    (hq : q.entersLoop = true → s.InLoop ∨ s.Uncut) : (s.under q).AtHome := by
  intro front r back hpath hloop hinner
  cases front with
  | nil =>
    obtain ⟨rfl, rfl⟩ := List.cons.inj hpath
    rcases hq hloop with ⟨r, hr, hr'⟩ | huncut
    · rw [hinner r hr] at hr'
      cases hr'
    · exact huncut
  | cons _ front =>
    obtain ⟨-, hpath⟩ := List.cons.inj hpath
    exact hs front r back hpath hloop hinner

theorem keepsTarget_of_uncut {s : Site} (h : s.Uncut) : s.KeepsTarget := by
  refine ⟨fun _ => atHome_of_uncut h, fun _ name hmem => ?_⟩
  have := h _ hmem
  cases this

theorem keepsTarget_under_next {s : Site} (h : s.KeepsTarget) (name : String) :
    (s.under (.next name)).KeepsTarget := by
  obtain ⟨hhome, hmain⟩ := h
  refine ⟨fun hexit => atHome_under (hhome hexit) (fun hloop => ?_), fun hexit other hmem => ?_⟩
  · cases hloop
  · rcases List.mem_cons.mp hmem with heq | hmem
    · cases heq
    · exact hmain hexit other hmem

/-! ## Exits that leave a list of instructions -/

/-- The action at the site does not leave the instructions, which stand in a loop if `inLoop`. -/
def Site.Confined (inLoop : Bool) (s : Site) : Prop :=
  s.action.exit? ≠ some .leave ∧ (s.action.exit?.isSome → inLoop = true ∨ s.InLoop)

theorem confined_under {inLoop : Bool} {q : Passage} {s : Site}
    (h : s.Confined (inLoop || q.entersLoop)) : (s.under q).Confined inLoop := by
  obtain ⟨hleave, hloop⟩ := h
  refine ⟨hleave, fun hexit => ?_⟩
  rcases hloop hexit with hor | hin
  · rcases Bool.or_eq_true_iff.mp hor with hout | henter
    · exact Or.inl hout
    · exact Or.inr ⟨q, List.mem_cons_self, henter⟩
  · exact Or.inr (inLoop_under hin q)

theorem confined_action {inLoop : Bool} {a : Action}
    (h : escapingExit? inLoop (.action a) = none) : Site.Confined inLoop ⟨[], a⟩ := by
  rw [escapingExit?] at h
  unfold Site.Confined
  cases hexit : a.exit? with
  | none => simp
  | some e =>
    rw [hexit] at h
    cases e <;> cases inLoop <;> simp_all

theorem confined_of_mem_map {inLoop : Bool} {q : Passage} {ss : List Site}
    (h : ∀ s ∈ ss, ¬ s.InSetup → s.Confined (inLoop || q.entersLoop)) :
    ∀ s ∈ ss.map (Site.under q), ¬ s.InSetup → s.Confined inLoop := by
  intro s hs hsetup
  obtain ⟨s', hs', rfl⟩ := List.mem_map.mp hs
  exact confined_under (h s' hs' fun h' => hsetup (inSetup_under h' q))

theorem inSetup_of_mem_map {head : Head} {ss : List Site} :
    ∀ s ∈ ss.map (Site.under (.setup head)), s.InSetup := by
  intro s hs
  obtain ⟨s', -, rfl⟩ := List.mem_map.mp hs
  exact ⟨.setup head, List.mem_cons_self, rfl⟩

mutual

theorem confined_of_mem_sites : ∀ (i : Instruction) {inLoop : Bool},
    escapingExit? inLoop i = none →
    ∀ s ∈ i.sites (fun _ => none) false, ¬ s.InSetup → s.Confined inLoop
  | .action a, inLoop, h, s, hs, _ => by
    obtain rfl := List.mem_singleton.mp hs
    exact confined_action h
  | .call ⟨.function, name, args⟩, inLoop, h, s, hs, _ => by simp [sites] at hs
  | .call ⟨.process, name, args⟩, inLoop, h, s, hs, _ => by simp [sites] at hs
  | .bracket head setup body none, inLoop, h, s, hs, hsetup => by
    rw [escapingExit?] at h
    rw [sites] at hs
    rcases List.mem_append.mp hs with hs | hs
    · exact absurd (inSetup_of_mem_map s hs) hsetup
    · exact confined_of_mem_map (confined_of_mem_ownSites body h) s hs hsetup
  | .bracket head setup body (some rest), inLoop, h, s, hs, hsetup => by
    rw [escapingExit?] at h
    rw [sites] at hs
    cases hbody : escapingExitAll? (inLoop || head.isLoop) body with
    | some e =>
      rw [hbody] at h
      cases h
    | none =>
      rw [hbody] at h
      rcases List.mem_append.mp hs with hs | hs
      · rcases List.mem_append.mp hs with hs | hs
        · exact absurd (inSetup_of_mem_map s hs) hsetup
        · exact confined_of_mem_map (confined_of_mem_ownSites body hbody) s hs hsetup
      · exact confined_of_mem_map (confined_of_mem_ownSites rest h) s hs hsetup

/-- Where no exit escapes, no action outside the setups leaves the instructions. -/
theorem confined_of_mem_ownSites : ∀ (is : List Instruction) {inLoop : Bool},
    escapingExitAll? inLoop is = none →
    ∀ s ∈ ownSites is, ¬ s.InSetup → s.Confined inLoop
  | [], _, _, s, hs, _ => by cases hs
  | i :: is, inLoop, h, s, hs, hsetup => by
    rw [escapingExitAll?] at h
    rw [ownSites_cons] at hs
    cases hi : escapingExit? inLoop i with
    | some e =>
      rw [hi] at h
      cases h
    | none =>
      rw [hi] at h
      rcases List.mem_append.mp hs with hs | hs
      · exact confined_of_mem_sites i hi s hs hsetup
      · exact confined_of_mem_ownSites is h s hs hsetup

end

/-! ## Exits in a layout -/

/-- Setups have no exits. -/
def Quiet (ss : List Site) : Prop := ∀ s ∈ ss, s.InSetup → s.action.exit? = none

theorem quiet_append {ss ss' : List Site} : Quiet (ss ++ ss') ↔ Quiet ss ∧ Quiet ss' := by
  simp only [Quiet, List.mem_append, or_imp, forall_and]

theorem quiet_of_quiet_under {q : Passage} {ss : List Site} (h : Quiet (ss.map (.under q))) :
    Quiet ss :=
  fun s hs hsetup => h (s.under q) (List.mem_map_of_mem hs) (inSetup_under hsetup q)

theorem confined_of_quiet {is : List Instruction} (hquiet : Quiet (ownSites is))
    (hescape : escapingExitAll? false is = none) : ∀ s ∈ ownSites is, s.Confined false := by
  intro s hs
  by_cases hsetup : s.InSetup
  · simp [Site.Confined, hquiet s hs hsetup]
  · exact confined_of_mem_ownSites is hescape s hs hsetup

/-- The site keeps the target of its exit also when it stands in a bracket that is a loop. -/
def Site.KeepsInside (s : Site) : Prop :=
  s.KeepsTarget ∧
    (s.action.exit? = some .stop ∨ s.action.exit? = some .skip → s.InLoop ∨ s.Uncut)

theorem keepsInside_of_uncut {s : Site} (h : s.Uncut) : s.KeepsInside :=
  ⟨keepsTarget_of_uncut h, fun _ => Or.inr h⟩

theorem keepsTarget_under {q : Passage} (hq : q.link? = none) {s : Site} (h : s.KeepsInside) :
    (s.under q).KeepsTarget := by
  obtain ⟨⟨hhome, hmain⟩, hinside⟩ := h
  refine ⟨fun hexit => atHome_under (hhome hexit) fun _ => hinside hexit,
    fun hexit name hmem => ?_⟩
  rcases List.mem_cons.mp hmem with rfl | hmem
  · cases hq
  · exact hmain hexit name hmem

/-- What a cut moves out of a bracket keeps its exits: no return is there, and the exits of loops
have their loops with them. -/
theorem keepsInside_under_aside {s : Site} (h : s.KeepsTarget) (hconf : s.Confined false)
    (name : String) : (s.under (.aside name)).KeepsInside := by
  obtain ⟨hleave, hloop⟩ := hconf
  refine ⟨⟨fun hexit => atHome_under (h.1 hexit) (fun henter => ?_), fun hexit => ?_⟩,
    fun hexit => ?_⟩
  · cases henter
  · exact absurd hexit hleave
  · have hsome : s.action.exit?.isSome = true := by
      rcases hexit with he | he
      · exact Option.isSome_of_eq_some he
      · exact Option.isSome_of_eq_some he
    rcases hloop hsome with hfalse | hin
    · cases hfalse
    · exact Or.inl (inLoop_under hin _)

/-- Promotions and calls on the way do not matter for leaving. -/
theorem confined_of_direct_eq {f : Value → Value} {s s₀ : Site} (heq : s.direct = s₀.mapValues f)
    (h : s₀.Confined false) : s.Confined false := by
  obtain ⟨hpath, haction⟩ := Site.mk.inj heq
  have hexit : s.action.exit? = s₀.action.exit? := by
    rw [haction]
    rfl
  refine ⟨hexit ▸ h.1, fun hsome => ?_⟩
  rcases h.2 (hexit ▸ hsome) with hfalse | ⟨q, hq, hloop⟩
  · exact Or.inl hfalse
  · have hmem : q.mapValues f ∈ s.path.filter fun q => q.link?.isNone := by
      rw [hpath]
      exact List.mem_map_of_mem hq
    exact Or.inr ⟨q.mapValues f, List.mem_of_mem_filter hmem,
      (entersLoop_mapValues f q).trans hloop⟩

theorem foreign_sites? {cs : Continuations} {calls : List Call} (h : Foreign cs.body? calls)
    (d : Nat) : Foreign (cs.sites? d) calls := by
  intro c hc hkind
  cases d with
  | zero => rfl
  | succ d => rw [Continuations.sites?, h c hc hkind, Option.map_none]

section

variable {cs : Continuations} {f : Value → Value} {d : Nat} {ts : List Template}

theorem Leads.uncut_of_mem_sites {i : Instruction} (h : Leads cs f d i.calls ts) {final : Bool} :
    ∀ s ∈ (i.mapValues f).sites (cs.sites? d) final, s.Uncut := by
  rw [sites_of_foreign]
  · exact Plotline.uncut_of_mem_sites (i.mapValues f)
  · rw [calls_mapValues]
    exact foreign_map (foreign_sites? h.foreign d) f

theorem Leads.uncut_of_mem_sitesAll {is : List Instruction} (h : Leads cs f d (callsAll is) ts)
    {top : Bool} : ∀ s ∈ sitesAll (cs.sites? d) top (mapValuesAll f is), s.Uncut := by
  rw [sitesAll_of_foreign]
  · exact uncut_of_mem_ownSites (mapValuesAll f is)
  · rw [callsAll_mapValuesAll]
    exact foreign_map (foreign_sites? h.foreign d) f

theorem sitesAll_link {p : Plot} {n : Nat} {body : List Instruction} (top : Bool)
    (h : cs.body? (p.continuation n) = some body) :
    sitesAll (cs.sites? (d + 1)) top (mapValuesAll f [p.link n]) =
      (sitesAll (cs.sites? d) true body).map
        (.under (if top then .next (p.continuation n) else .aside (p.continuation n))) := by
  cases top <;>
    simp [mapValuesAll, mapValues, sitesAll, Plot.link, Call.link, sites, Continuations.sites?, h]

end

variable (p : Plot) (f : Value → Value) (cs : Continuations)

/-- The sites of a layout are those of what was laid out, but for the calls on the way and the
promotions. -/
theorem Layout.map_direct_sitesAll_held (l : Layout) {d : Nat}
    (h : Leads cs f d (callsAll l.joined) (l.behind p)) :
    (sitesAll (cs.sites? d) true (mapValuesAll f (l.held p))).map Site.direct =
      (ownSites l.joined).map (Site.mapValues f) := by
  rw [map_direct_sitesAll (cs.map_direct_sites? d), l.inlinedAll_held p f cs h,
    ownSites_mapValuesAll]

theorem Layout.confined_of_mem (l : Layout) {d : Nat}
    (h : Leads cs f d (callsAll l.joined) (l.behind p)) (hquiet : Quiet (ownSites l.joined))
    (hescape : escapingExitAll? false l.joined = none) :
    ∀ s ∈ sitesAll (cs.sites? d) true (mapValuesAll f (l.held p)), s.Confined false := by
  intro s hs
  have hmem : s.direct ∈ (ownSites l.joined).map (Site.mapValues f) := by
    rw [← l.map_direct_sitesAll_held p f cs h]
    exact List.mem_map_of_mem hs
  obtain ⟨s₀, hs₀, heq⟩ := List.mem_map.mp hmem
  exact confined_of_direct_eq heq.symm (confined_of_quiet hquiet hescape s₀ hs₀)

mutual

theorem Layout.keepsTarget : ∀ (l : Layout) {d : Nat},
    Leads cs f d (callsAll l.joined) (l.behind p) → l.Guarded → Quiet (ownSites l.joined) →
    ∀ s ∈ sitesAll (cs.sites? d) true (mapValuesAll f (l.held p)), s.KeepsTarget
  | .done, _, _, _, _, s, hs => by cases hs
  | .node i rest, d, h, hguard, hquiet, s, hs => by
    obtain ⟨hi, hrest⟩ := Leads.front h
    rw [Layout.joined, ownSites_cons, quiet_append] at hquiet
    rw [Layout.held, mapValuesAll, sitesAll] at hs
    rcases List.mem_append.mp hs with hs | hs
    · exact keepsTarget_of_uncut (hi.uncut_of_mem_sites s hs)
    · exact rest.keepsTarget hrest hguard hquiet.2 s hs
  | .cut b rest, d, h, hguard, hquiet, s, hs => by
    obtain ⟨hb, hrest⟩ := Leads.append h
    rw [Layout.joined, ownSites_cons, quiet_append] at hquiet
    rw [Layout.held, mapValuesAll, sitesAll] at hs
    rcases List.mem_append.mp hs with hs | hs
    · exact b.keepsTarget hb hguard.1 hquiet.1 s hs
    · exact rest.keepsTarget hrest hguard.2 hquiet.2 s hs
  | .next n rest, d, h, hguard, hquiet, s, hs => by
    obtain ⟨e, rfl, hbody, hrest⟩ := Leads.cons h
    rw [Layout.held, sitesAll_link true hbody] at hs
    obtain ⟨s', hs', rfl⟩ := List.mem_map.mp hs
    exact keepsTarget_under_next (rest.keepsTarget hrest hguard hquiet s' hs') _

theorem CutBracket.keepsTarget : ∀ (b : CutBracket) {d : Nat} {final : Bool},
    Leads cs f d b.joined.calls (b.behind p) → b.Guarded →
    Quiet (b.joined.sites (fun _ => none) false) →
    ∀ s ∈ ((b.held p).mapValues f).sites (cs.sites? d) final, s.KeepsTarget
  | .single head setup body, d, _, h, hguard, hquiet, s, hs => by
    obtain ⟨hsetup, hbody⟩ := Leads.front h
    rw [CutBracket.joined, sites, quiet_append] at hquiet
    have hinside := body.keepsInside hbody hguard (quiet_of_quiet_under hquiet.2)
    rw [CutBracket.held, mapValues, sites] at hs
    rcases List.mem_append.mp hs with hs | hs <;> obtain ⟨s', hs', rfl⟩ := List.mem_map.mp hs
    · exact keepsTarget_under rfl (keepsInside_of_uncut (hsetup.uncut_of_mem_sitesAll s' hs'))
    · exact keepsTarget_under rfl (hinside s' hs')
  | .double head setup body other, d, _, h, hguard, hquiet, s, hs => by
    obtain ⟨h, hother⟩ := Leads.append h
    obtain ⟨hsetup, hbody⟩ := Leads.front h
    rw [CutBracket.joined, sites, quiet_append, quiet_append] at hquiet
    have hinside := body.keepsInside hbody hguard.1 (quiet_of_quiet_under hquiet.1.2)
    have hinside' := other.keepsInside hother hguard.2 (quiet_of_quiet_under hquiet.2)
    rw [CutBracket.held, mapValues, sites] at hs
    rcases List.mem_append.mp hs with hs | hs
    · rcases List.mem_append.mp hs with hs | hs <;> obtain ⟨s', hs', rfl⟩ := List.mem_map.mp hs
      · exact keepsTarget_under rfl (keepsInside_of_uncut (hsetup.uncut_of_mem_sitesAll s' hs'))
      · exact keepsTarget_under rfl (hinside s' hs')
    · obtain ⟨s', hs', rfl⟩ := List.mem_map.mp hs
      exact keepsTarget_under rfl (hinside' s' hs')

theorem CutBody.keepsInside : ∀ (b : CutBody) {d : Nat},
    Leads cs f d (callsAll b.joined) (b.behind p) → b.Guarded → Quiet (ownSites b.joined) →
    ∀ s ∈ sitesAll (cs.sites? d) false (mapValuesAll f (b.held p)), s.KeepsInside
  | .whole is, d, h, _, _, s, hs => keepsInside_of_uncut (h.uncut_of_mem_sitesAll s hs)
  | .split kept n rest, d, h, hguard, hquiet, s, hs => by
    rw [CutBody.joined, callsAll_append] at h
    obtain ⟨hkept, h⟩ := Leads.front h
    obtain ⟨e, rfl, hbody, hrest⟩ := Leads.cons h
    rw [CutBody.joined, ownSites_append, quiet_append] at hquiet
    rw [CutBody.held, mapValuesAll_append, sitesAll_append] at hs
    rcases List.mem_append.mp hs with hs | hs
    · exact keepsInside_of_uncut (hkept.uncut_of_mem_sitesAll s hs)
    · rw [sitesAll_link false hbody] at hs
      obtain ⟨s', hs', rfl⟩ := List.mem_map.mp hs
      exact keepsInside_under_aside (rest.keepsTarget hrest hguard.2 hquiet.2 s' hs')
        (rest.confined_of_mem p f cs hrest hquiet.2 hguard.1 s' hs') _

end

/-! ## Exits of a program -/

instance (s : Site) : Decidable s.InSetup :=
  inferInstanceAs (Decidable (∃ q ∈ s.path, q.isSetup = true))

/-- Setups hold nothing but assignments. -/
def Program.SetupsAssign (P : Program) : Prop :=
  ∀ unit ∈ P.units, ∀ s ∈ ownSites unit.body, s.InSetup → s.action.block = .setVar

instance (P : Program) : Decidable P.SetupsAssign :=
  inferInstanceAs (Decidable (∀ unit ∈ P.units, ∀ s ∈ ownSites unit.body, s.InSetup →
    s.action.block = .setVar))

theorem exit?_of_setVar {a : Action} (h : a.block = .setVar) : a.exit? = none := by
  simp [Action.exit?, h]

/-- The template `t` starts `unit` in the fitted program. It leads to the actions of the unit, in
their order and inside the same brackets, and their exits keep their targets. -/
structure ExitsKept (out : FittedProgram) (unit t : Template) : Prop where
  header : t.header = unit.header
  actions : (t.sites out.templates).map Site.direct =
    (ownSites unit.body).map (Site.mapValues (Value.widened out.promotions unit.name))
  loops : ∀ s ∈ t.sites out.templates,
    s.action.exit? = some .stop ∨ s.action.exit? = some .skip → s.AtHome
  returns : ∀ s ∈ t.sites out.templates, s.action.exit? = some .leave → s.OnMainLine

/-- **Exits.** In a fitted program no exit is cut off from the loop or function that it leaves. -/
theorem exits_keep_target {P : Program} {capacity : Nat} {out : FittedProgram}
    (h : P.fit capacity = .ok out) (hfresh : P.Fresh) (hsetups : P.SetupsAssign) :
    List.Forall₂ (ExitsKept out) P.units
      (out.templates.filter fun t => !t.header.isContinuation) := by
  refine forall₂_imp_mem (Program.forall₂_visible h hfresh) fun unit hunit t _ ht => ?_
  obtain ⟨l, hjoined, hguard, rfl, hleads⟩ := ht
  have hquiet : Quiet (ownSites l.joined) := by
    intro s hs hsetup
    rw [hjoined] at hs
    exact exit?_of_setVar (hsetups unit hunit s hs hsetup)
  have hkeeps := l.keepsTarget _ _ _ hleads hguard hquiet
  refine ⟨rfl, ?_, fun s hs => (hkeeps s hs).1, fun s hs => (hkeeps s hs).2⟩
  rw [← hjoined]
  exact l.map_direct_sitesAll_held _ _ _ hleads

/-- The loop of the sample is cut, its exit stays inside it, and its return is reached over the
call that ends the first template. -/
theorem exits_keep_target_sample :
    (Sample.fitted.templates.head?.map fun t =>
        (t.sites Sample.fitted.templates).filter fun s => s.action.exit?.isSome) =
      some [⟨[.body (.loop ⟨"Forever", [], none, false⟩),
            .body (.branch ⟨.ifPlayer, "IsSneaking", [], none, false⟩)],
          ⟨.control, "StopRepeat", [], none⟩⟩,
        ⟨[.next "event.Join~2"], ⟨.control, "Return", [], none⟩⟩] ∧
      List.Forall₂ (ExitsKept Sample.fitted) Sample.program.units
        (Sample.fitted.templates.filter fun t => !t.header.isContinuation) :=
  ⟨by decide, exits_keep_target Sample.program_fit Sample.program_fresh (by decide)⟩

end Plotline
