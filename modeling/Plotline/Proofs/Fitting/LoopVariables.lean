import Plotline.Proofs.Fitting.Exits
import Plotline.Proofs.Fitting.Promotion

/-!
# Variables that loops update

A line variable lives for one run of one template. A loop that adds to a line variable in every
round needs the variable to outlive the round, so an update that a cut has moved out of the template
of its loop is safe only if the variable is promoted: the continuation with the update is entered
anew in every round.

Promotion looks at how many templates mention a variable, not at how often they are entered. So
`promoted_iff_of_update_in_loop`: the variable of such an update is promoted exactly when a second
template of the unit mentions it, which the template of the loop does if the head of the loop reads
the variable. `update_in_loop_not_promoted` is a loop all of whose mentions of its variable have
moved together. There the variable keeps line scope and starts afresh in every round.
-/

namespace Plotline

open Instruction

/-! ## The template of a site -/

/-- The values that stand at a step into a bracket. -/
def Passage.values : Passage → List Value
  | .setup head | .body head | .otherwise head => head.args
  | .next _ | .aside _ => []

/-- The name of the template that a way from the template `start` leads to. -/
def home (start : String) : List Passage → String
  | [] => start
  | q :: path => home (q.link?.getD start) path

/-- All that is written on the way to the action `a`, and `a` itself, stands in the templates that
the way says. -/
def Stands (ts : List Template) (a : Action) (start : String) : List Passage → Prop
  | [] => ∃ t ∈ ts, t.name = start ∧ a.args ⊆ t.values
  | q :: path =>
    (∃ t ∈ ts, t.name = start ∧ q.values ⊆ t.values) ∧ Stands ts a (q.link?.getD start) path

section

variable {ts : List Template} {a : Action}

/-- The action stands in the template at the end of the way. -/
theorem Stands.action {path : List Passage} {start : String} (h : Stands ts a start path) :
    ∃ t ∈ ts, t.name = home start path ∧ a.args ⊆ t.values := by
  induction path generalizing start with
  | nil => exact h
  | cons q path ih => exact ih h.2

/-- A step into a bracket stands in the template that the way up to it leads to. -/
theorem Stands.passage {front back : List Passage} {q : Passage} {start : String}
    (h : Stands ts a start (front ++ q :: back)) :
    ∃ t ∈ ts, t.name = home start front ∧ q.values ⊆ t.values := by
  induction front generalizing start with
  | nil => exact h.1
  | cons r front ih => exact ih h.2

end

section

variable {ts : List Template} {more? : String → Option (List Site)}

/-- Inside a bracket of the template `t`, ways go on from `t`. -/
theorem stands_of_mem_map {t : Template} (ht : t ∈ ts) (q : Passage) (hq : q.link? = none)
    (hvalues : q.values ⊆ t.values) {ss : List Site}
    (hss : ∀ s ∈ ss, Stands ts s.action t.name s.path) :
    ∀ s ∈ ss.map (Site.under q), Stands ts s.action t.name s.path := by
  intro s hs
  obtain ⟨s', hs', rfl⟩ := List.mem_map.mp hs
  refine ⟨⟨t, ht, rfl, hvalues⟩, ?_⟩
  rw [hq, Option.getD_none]
  exact hss s' hs'

/-- Over a call, ways go on from the continuation that is called. -/
theorem stands_of_mem_link (hmore : ∀ name ss, more? name = some ss → ∀ s ∈ ss,
      Stands ts s.action name s.path) {t : Template} (ht : t ∈ ts) {q : Passage} {name : String}
    (hq : q.link? = some name) (hvalues : q.values = []) :
    ∀ s ∈ ((more? name).getD []).map (Site.under q), Stands ts s.action t.name s.path := by
  intro s hs
  obtain ⟨s', hs', rfl⟩ := List.mem_map.mp hs
  refine ⟨⟨t, ht, rfl, hvalues ▸ List.nil_subset t.values⟩, ?_⟩
  rw [hq, Option.getD_some]
  cases hss : more? name with
  | none =>
    rw [hss] at hs'
    cases hs'
  | some ss =>
    rw [hss] at hs'
    exact hmore name ss hss s' hs'

mutual

theorem stands_of_mem_sites (hmore : ∀ name ss, more? name = some ss → ∀ s ∈ ss,
      Stands ts s.action name s.path) {t : Template} (ht : t ∈ ts) :
    ∀ (i : Instruction) {final : Bool}, i.values ⊆ t.values →
      ∀ s ∈ i.sites more? final, Stands ts s.action t.name s.path
  | .action a, _, hi, s, hs => by
    obtain rfl := List.mem_singleton.mp hs
    exact ⟨t, ht, rfl, hi⟩
  | .call ⟨.function, name, args⟩, final, _, s, hs => by
    cases final
    · exact stands_of_mem_link hmore ht rfl rfl s hs
    · exact stands_of_mem_link hmore ht rfl rfl s hs
  | .call ⟨.process, name, args⟩, _, _, s, hs => by cases hs
  | .bracket head setup body none, _, hi, s, hs => by
    rw [values, List.append_subset, List.append_subset] at hi
    obtain ⟨⟨hhead, hsetup⟩, hbody⟩ := hi
    rw [sites] at hs
    rcases List.mem_append.mp hs with hs | hs
    · exact stands_of_mem_map ht (.setup head) rfl hhead
        (stands_of_mem_sitesAll hmore ht setup hsetup) s hs
    · exact stands_of_mem_map ht (.body head) rfl hhead
        (stands_of_mem_sitesAll hmore ht body hbody) s hs
  | .bracket head setup body (some rest), _, hi, s, hs => by
    rw [values, List.append_subset, List.append_subset, List.append_subset] at hi
    obtain ⟨⟨⟨hhead, hsetup⟩, hbody⟩, hrest⟩ := hi
    rw [sites] at hs
    rcases List.mem_append.mp hs with hs | hs
    · rcases List.mem_append.mp hs with hs | hs
      · exact stands_of_mem_map ht (.setup head) rfl hhead
          (stands_of_mem_sitesAll hmore ht setup hsetup) s hs
      · exact stands_of_mem_map ht (.body head) rfl hhead
          (stands_of_mem_sitesAll hmore ht body hbody) s hs
    · exact stands_of_mem_map ht (.otherwise head) rfl hhead
        (stands_of_mem_sitesAll hmore ht rest hrest) s hs

theorem stands_of_mem_sitesAll (hmore : ∀ name ss, more? name = some ss → ∀ s ∈ ss,
      Stands ts s.action name s.path) {t : Template} (ht : t ∈ ts) :
    ∀ (is : List Instruction) {top : Bool}, valuesAll is ⊆ t.values →
      ∀ s ∈ sitesAll more? top is, Stands ts s.action t.name s.path
  | [], _, _, s, hs => by cases hs
  | i :: is, top, his, s, hs => by
    rw [valuesAll, List.append_subset] at his
    rw [sitesAll] at hs
    rcases List.mem_append.mp hs with hs | hs
    · exact stands_of_mem_sites hmore ht i his.1 s hs
    · exact stands_of_mem_sitesAll hmore ht is his.2 s hs

end

end

/-- A continuation that is found among templates is one of them. -/
theorem exists_of_body?_ofTemplates {ts : List Template} {name : String} {body : List Instruction}
    (h : (Continuations.ofTemplates ts).body? name = some body) :
    ∃ t ∈ ts, t.name = name ∧ t.body = body := by
  have hmem := Continuations.mem_of_body?_eq_some h
  rw [ofTemplates_eq_map_filter] at hmem
  obtain ⟨t, ht, heq⟩ := List.mem_map.mp hmem
  obtain ⟨hname, hbody⟩ := Prod.mk.inj heq
  exact ⟨t, List.mem_of_mem_filter ht, hname, hbody⟩

theorem stands_of_mem_sites? (ts : List Template) (d : Nat) :
    ∀ name ss, (Continuations.ofTemplates ts).sites? d name = some ss →
      ∀ s ∈ ss, Stands ts s.action name s.path := by
  induction d with
  | zero =>
    intro name ss h
    cases h
  | succ d ih =>
    intro name ss h
    obtain ⟨body, hbody, rfl⟩ := Option.map_eq_some_iff.mp h
    obtain ⟨t, ht, rfl, rfl⟩ := exists_of_body?_ofTemplates hbody
    exact stands_of_mem_sitesAll ih ht t.body (List.Subset.refl _)

theorem Template.stands_of_mem_sites {ts : List Template} {t : Template} (ht : t ∈ ts) :
    ∀ s ∈ t.sites ts, Stands ts s.action t.name s.path :=
  stands_of_mem_sitesAll (stands_of_mem_sites? ts _) ht t.body (List.Subset.refl _)

/-! ## Every action has a site

A program may call a function under the name of a continuation. Following calls by name then finds
more than what was laid out, but it misses nothing. -/

mutual

theorem sublist_map_direct_sites (more? : String → Option (List Site)) :
    ∀ (i : Instruction) (final : Bool),
      (i.sites (fun _ => none) false).Sublist ((i.sites more? final).map Site.direct)
  | .action a, _ => List.Sublist.refl _
  | .call ⟨.function, name, args⟩, _ => List.nil_sublist _
  | .call ⟨.process, name, args⟩, _ => List.nil_sublist _
  | .bracket head setup body none, _ => by
    rw [sites, sites, List.map_append, map_direct_under rfl, map_direct_under rfl]
    exact ((sublist_map_direct_sitesAll more? setup false).map _).append
      ((sublist_map_direct_sitesAll more? body false).map _)
  | .bracket head setup body (some rest), _ => by
    rw [sites, sites, List.map_append, List.map_append, map_direct_under rfl,
      map_direct_under rfl, map_direct_under rfl]
    exact (((sublist_map_direct_sitesAll more? setup false).map _).append
      ((sublist_map_direct_sitesAll more? body false).map _)).append
      ((sublist_map_direct_sitesAll more? rest false).map _)

theorem sublist_map_direct_sitesAll (more? : String → Option (List Site)) :
    ∀ (is : List Instruction) (top : Bool),
      (ownSites is).Sublist ((sitesAll more? top is).map Site.direct)
  | [], _ => List.Sublist.refl _
  | i :: is, top => by
    rw [ownSites_cons, sitesAll, List.map_append]
    exact (sublist_map_direct_sites more? i _).append (sublist_map_direct_sitesAll more? is top)

end

theorem map_direct_sitesAll_link {cs : Continuations} {d : Nat} {p : Plot} {n : Nat}
    {body : List Instruction} (top : Bool) (h : cs.body? (p.continuation n) = some body) :
    (sitesAll (cs.sites? (d + 1)) top [p.link n]).map Site.direct =
      (sitesAll (cs.sites? d) true body).map Site.direct := by
  have hlink := sitesAll_link (d := d) (f := id) top h
  rw [show mapValuesAll id [p.link n] = [p.link n] from rfl] at hlink
  rw [hlink, List.map_map]
  have hq : (if top then Passage.next (p.continuation n)
      else .aside (p.continuation n)).link? = some (p.continuation n) := by
    cases top <;> rfl
  exact List.map_congr_left fun s _ => direct_under_of_link?_eq_some hq s

section

variable (p : Plot) (cs : Continuations)

mutual

theorem Layout.sublist_sites : ∀ (l : Layout) {d : Nat} (top : Bool),
    (l.behind p).length ≤ d → (∀ t ∈ l.behind p, cs.body? t.name = some t.body) →
    (ownSites l.joined).Sublist ((sitesAll (cs.sites? d) top (l.held p)).map Site.direct)
  | .done, _, _, _, _ => List.Sublist.refl _
  | .node i rest, d, top, hdepth, hknown => by
    rw [Layout.joined, Layout.held, ownSites_cons, sitesAll, List.map_append]
    exact (sublist_map_direct_sites _ i _).append (rest.sublist_sites top hdepth hknown)
  | .cut b rest, d, top, hdepth, hknown => by
    rw [Layout.behind, List.length_append] at hdepth
    rw [Layout.behind, List.forall_mem_append] at hknown
    rw [Layout.joined, Layout.held, ownSites_cons, sitesAll, List.map_append]
    exact (b.sublist_sites _ (by omega) hknown.1).append
      (rest.sublist_sites top (by omega) hknown.2)
  | .next n rest, d, top, hdepth, hknown => by
    rw [Layout.behind, List.length_cons] at hdepth
    rw [Layout.behind, List.forall_mem_cons] at hknown
    obtain ⟨e, rfl⟩ : ∃ e, d = e + 1 := ⟨d - 1, by omega⟩
    rw [Layout.joined, Layout.held, map_direct_sitesAll_link top hknown.1]
    exact rest.sublist_sites true (by omega) hknown.2

theorem CutBracket.sublist_sites : ∀ (b : CutBracket) {d : Nat} (final : Bool),
    (b.behind p).length ≤ d → (∀ t ∈ b.behind p, cs.body? t.name = some t.body) →
    (b.joined.sites (fun _ => none) false).Sublist
      (((b.held p).sites (cs.sites? d) final).map Site.direct)
  | .single head setup body, d, _, hdepth, hknown => by
    rw [CutBracket.joined, CutBracket.held, sites, sites, List.map_append, map_direct_under rfl,
      map_direct_under rfl]
    exact ((sublist_map_direct_sitesAll _ setup false).map _).append
      ((body.sublist_sites hdepth hknown).map _)
  | .double head setup body other, d, _, hdepth, hknown => by
    rw [CutBracket.behind, List.length_append] at hdepth
    rw [CutBracket.behind, List.forall_mem_append] at hknown
    rw [CutBracket.joined, CutBracket.held, sites, sites, List.map_append, List.map_append,
      map_direct_under rfl, map_direct_under rfl, map_direct_under rfl]
    exact (((sublist_map_direct_sitesAll _ setup false).map _).append
      ((body.sublist_sites (by omega) hknown.1).map _)).append
      ((other.sublist_sites (by omega) hknown.2).map _)

theorem CutBody.sublist_sites : ∀ (b : CutBody) {d : Nat},
    (b.behind p).length ≤ d → (∀ t ∈ b.behind p, cs.body? t.name = some t.body) →
    (ownSites b.joined).Sublist ((sitesAll (cs.sites? d) false (b.held p)).map Site.direct)
  | .whole is, d, _, _ => sublist_map_direct_sitesAll _ is false
  | .split kept n rest, d, hdepth, hknown => by
    rw [CutBody.behind, List.length_cons] at hdepth
    rw [CutBody.behind, List.forall_mem_cons] at hknown
    obtain ⟨e, rfl⟩ : ∃ e, d = e + 1 := ⟨d - 1, by omega⟩
    rw [CutBody.joined, CutBody.held, ownSites_append, sitesAll_append, List.map_append,
      map_direct_sitesAll_link false hknown.1]
    exact (sublist_map_direct_sitesAll _ kept false).append
      (rest.sublist_sites true (by omega) hknown.2)

end

end

/-- The continuations of a unit are found by name among its own templates. -/
theorem Layout.body?_of_mem_templates {capacity : Nat} {unit : Template} {l : Layout}
    (hnum : Follow 0 l.numbers) {t : Template} (ht : t ∈ l.behind ⟨capacity, unit.name⟩) :
    (Continuations.ofTemplates (l.templates ⟨capacity, unit.name⟩ unit.header)).body? t.name =
      some t.body := by
  apply Continuations.body?_of_mem
  · rw [ofTemplates_eq_map_filter, List.map_map]
    exact (Layout.nodup_names hnum).sublist (List.filter_sublist.map Template.name)
  · rw [ofTemplates_eq_map_filter]
    refine List.mem_map.mpr ⟨t, List.mem_filter.mpr ⟨List.mem_cons_of_mem _ ht, ?_⟩, rfl⟩
    exact Layout.isContinuation_of_mem_behind ht

theorem Layout.length_behind_le_continuations (p : Plot) (header : Header) (l : Layout) :
    (l.behind p).length ≤ (Continuations.ofTemplates (l.templates p header)).length := by
  rw [ofTemplates_eq_map_filter, List.length_map]
  have hfilter : (l.behind p).filter (fun t => t.header.isContinuation) = l.behind p :=
    List.filter_eq_self.mpr fun t ht => Layout.isContinuation_of_mem_behind ht
  calc (l.behind p).length
      = ((l.behind p).filter fun t => t.header.isContinuation).length := by rw [hfilter]
    _ ≤ ((l.templates p header).filter fun t => t.header.isContinuation).length :=
        ((List.sublist_cons_self _ _).filter _).length_le

/-- The first template of a unit leads to every action of the unit. -/
theorem sublist_sites_of_fit {capacity : Nat} {unit first : Template} {rest : List Template}
    (h : fit capacity unit = .ok (first :: rest)) :
    (ownSites unit.body).Sublist ((first.sites (first :: rest)).map Site.direct) := by
  obtain ⟨l, hjoined, hnum, -, hts⟩ := layout_of_fit h
  have hfirst : first.body = l.held ⟨capacity, unit.name⟩ :=
    congrArg Template.body (List.cons.inj hts).1
  rw [Template.sites, hts, hfirst, ← hjoined]
  exact l.sublist_sites _ _ true (l.length_behind_le_continuations _ _)
    fun t ht => Layout.body?_of_mem_templates hnum ht

/-! ## Shared names -/

/-- A line variable of the template `t` is shared exactly when another template mentions it. -/
theorem mem_sharedNames_iff_elsewhere {ts : List Template} (hnames : (ts.map Template.name).Nodup)
    {t : Template} (ht : t ∈ ts) {x : String} (hx : x ∈ t.namesIn .line) :
    x ∈ sharedNames ts ↔ ∃ t' ∈ ts, t'.name ≠ t.name ∧ x ∈ t'.namesIn .line := by
  obtain ⟨front, back, rfl⟩ := List.append_of_mem ht
  have hother : ∀ t' ∈ front ++ back, t'.name ≠ t.name := by
    rw [List.map_append, List.map_cons, List.nodup_middle, List.nodup_cons] at hnames
    intro t' ht' heq
    apply hnames.1
    rw [← List.map_append, ← heq]
    exact List.mem_map_of_mem ht'
  -- `t` is counted once, so a second template is one of the others
  have hcount : (front ++ t :: back).countP (fun t => x ∈ t.namesIn .line) =
      (front ++ back).countP (fun t => x ∈ t.namesIn .line) + 1 := by
    simp [hx, Nat.add_assoc]
  have hle : ∀ n, 2 ≤ n + 1 ↔ 0 < n := fun n => by omega
  rw [mem_sharedNames, hcount, hle, List.countP_pos_iff]
  constructor
  · rintro ⟨t', ht', hx'⟩
    refine ⟨t', ?_, hother t' ht', of_decide_eq_true hx'⟩
    rcases List.mem_append.mp ht' with hfront | hback
    · exact List.mem_append_left _ hfront
    · exact List.mem_append_right _ (List.mem_cons_of_mem t hback)
  · rintro ⟨t', ht', hne, hx'⟩
    refine ⟨t', ?_, decide_eq_true hx'⟩
    rcases List.mem_append.mp ht' with hfront | hmem
    · exact List.mem_append_left _ hfront
    · rcases List.mem_cons.mp hmem with rfl | hback
      · exact absurd rfl hne
      · exact List.mem_append_right _ hback

/-! ## Scopes after promotion -/

/-- A line variable of a unit is promoted exactly when it loses line scope everywhere. -/
theorem mem_promoted_iff_scope (name : String) {ts : List Template} {t : Template} (ht : t ∈ ts)
    {x : String} (hx : x ∈ t.namesIn .line) :
    x ∈ (promoteUnit name ts).promoted ↔
      ∀ t' ∈ (promoteUnit name ts).templates, x ∉ t'.namesIn .line := by
  constructor
  · intro hshared t' ht' hmem
    obtain ⟨t₀, -, rfl⟩ := List.mem_map.mp ht'
    exact (mem_namesIn_promote.mp hmem).2 hshared
  · intro hnone
    by_contra hshared
    exact hnone _ (List.mem_map_of_mem ht) (mem_namesIn_promote.mpr ⟨hx, hshared⟩)

/-! ## Updates in loops -/

/-- The action gives the line variable `x` a value. -/
def Action.Sets (a : Action) (x : String) : Prop :=
  a.block = .setVar ∧ a.args.head? = some (.var x .line)

instance (a : Action) (x : String) : Decidable (a.Sets x) :=
  inferInstanceAs (Decidable (a.block = .setVar ∧ a.args.head? = some (.var x .line)))

/-- The action adds to the line variable `x` or takes from it. -/
def Action.Updates (a : Action) (x : String) : Prop :=
  a.Sets x ∧ (a.name = "+=" ∨ a.name = "-=")

instance (a : Action) (x : String) : Decidable (a.Updates x) :=
  inferInstanceAs (Decidable (a.Sets x ∧ (a.name = "+=" ∨ a.name = "-=")))

/-- The action at `s` updates `x` in the loop that is entered at `q`, and it stands in another
template than the head of the loop. Ways begin in the template `start`. -/
structure UpdatedApart (start : String) (s : Site) (q : Passage) (x : String) : Prop where
  updates : s.action.Updates x
  loop : q.entersLoop = true
  apart : ∃ front back, s.path = front ++ q :: back ∧ home start s.path ≠ home start front

/-- What becomes of the line variables that `unit` updates in loops, if it is cut into `first` and
`rest` and these are promoted to `u`. -/
structure PromotesUpdates (unit first : Template) (rest : List Template) (u : PromotedUnit) :
    Prop where
  actions : (ownSites unit.body).Sublist ((first.sites (first :: rest)).map Site.direct)
  elsewhere : ∀ s ∈ first.sites (first :: rest), ∀ q x, UpdatedApart first.name s q x →
    (x ∈ u.promoted ↔
      ∃ t ∈ first :: rest, t.name ≠ home first.name s.path ∧ x ∈ t.namesIn .line)
  scope : ∀ s ∈ first.sites (first :: rest), ∀ q x, UpdatedApart first.name s q x →
    (x ∈ u.promoted ↔ ∀ t ∈ u.templates, x ∉ t.namesIn .line)
  head : ∀ s ∈ first.sites (first :: rest), ∀ q x, UpdatedApart first.name s q x →
    .var x .line ∈ q.values → x ∈ u.promoted

/-- The variable of an update is mentioned in the template of the update. -/
theorem exists_mem_namesIn_of_updates {ts : List Template} {first : Template} (hfirst : first ∈ ts)
    {s : Site} (hs : s ∈ first.sites ts) {x : String} (hx : s.action.Updates x) :
    ∃ t ∈ ts, t.name = home first.name s.path ∧ x ∈ t.namesIn .line := by
  obtain ⟨t, ht, hname, hargs⟩ := (Template.stands_of_mem_sites hfirst s hs).action
  exact ⟨t, ht, hname, mem_namesIn_iff.mpr (hargs (List.mem_of_mem_head? hx.1.2))⟩

theorem promotesUpdates_of_fit {capacity : Nat} {unit first : Template} {rest : List Template}
    (h : fit capacity unit = .ok (first :: rest)) :
    PromotesUpdates unit first rest (promoteUnit unit.name (first :: rest)) := by
  have hnames : ((first :: rest).map Template.name).Nodup := by
    obtain ⟨l, -, hnum, -, hts⟩ := layout_of_fit h
    rw [hts]
    exact Layout.nodup_names hnum
  have helsewhere : ∀ s ∈ first.sites (first :: rest), ∀ x, s.action.Updates x →
      (x ∈ sharedNames (first :: rest) ↔
        ∃ t ∈ first :: rest, t.name ≠ home first.name s.path ∧ x ∈ t.namesIn .line) := by
    intro s hs x hx
    obtain ⟨t, ht, hname, hmem⟩ := exists_mem_namesIn_of_updates List.mem_cons_self hs hx
    -- names tell the templates apart, so another name is another template
    rw [← hname]
    exact mem_sharedNames_iff_elsewhere hnames ht hmem
  refine ⟨sublist_sites_of_fit h, fun s hs q x hx => helsewhere s hs x hx.updates, ?_, ?_⟩
  · intro s hs q x hx
    obtain ⟨t, ht, -, hmem⟩ := exists_mem_namesIn_of_updates List.mem_cons_self hs hx.updates
    exact mem_promoted_iff_scope unit.name ht hmem
  · intro s hs q x hx hhead
    obtain ⟨front, back, hpath, hapart⟩ := hx.apart
    have hstands := Template.stands_of_mem_sites List.mem_cons_self s hs
    rw [hpath] at hstands
    obtain ⟨t, ht, hname, hvalues⟩ := hstands.passage
    refine (helsewhere s hs x hx.updates).mpr ⟨t, ht, ?_, mem_namesIn_iff.mpr (hvalues hhead)⟩
    rw [hname]
    exact hapart.symm

namespace Sample

/-- A loop that updates `x` at its end, too heavy for six slots. -/
def counting (head : Loop) : Template :=
  ⟨.event .player "Join", [.bracket (.loop head) []
    [control "Wait", control "Wait", update "+=" .line] none]⟩

/-- The first template of the loop on a plot of six slots. -/
def counting₀ (head : Loop) : Template :=
  ⟨.event .player "Join", [.bracket (.loop head) []
    [control "Wait", .call (.link "event.Join~1")] none]⟩

/-- The continuation that runs once in every round. -/
def counting₁ : Template :=
  ⟨.continuation "event.Join~1", [control "Wait", update "+=" .line]⟩

/-- The update behind the call in the loop. -/
def counted (head : Loop) : Site :=
  ⟨[.body (.loop head), .aside "event.Join~1"],
    ⟨.setVar, "+=", [.var "x" .line, .var "step" .saved], none⟩⟩

theorem counted_apart (head : Loop) :
    UpdatedApart (counting₀ head).name (counted head) (.body (.loop head)) "x" where
  updates := ⟨⟨rfl, rfl⟩, Or.inl rfl⟩
  loop := rfl
  apart := by
    refine ⟨[], [.aside "event.Join~1"], rfl, ?_⟩
    show "event.Join~1" ≠ "event.Join"
    decide

def endless : Loop := ⟨"Forever", [], none, false⟩

/-- A loop that reads `x` in its head. -/
def whileX : Loop := ⟨"While", [.var "x" .line, .var "limit" .saved], some "<", false⟩

end Sample

/-- **Updates in loops.** A line variable that is updated in a loop, but in another template than
that of the loop, is promoted exactly when some template besides the one with the update mentions
it. -/
theorem promoted_iff_of_update_in_loop {P : Program} {capacity : Nat} {out : FittedProgram}
    (h : P.fit capacity = .ok out) :
    List.Forall₂ (fun unit u => ∃ first rest, fit capacity unit = .ok (first :: rest) ∧
        u = promoteUnit unit.name (first :: rest) ∧ PromotesUpdates unit first rest u)
      P.units out.units := by
  refine (Program.units_of_fit h).imp fun unit u hfit => ?_
  obtain ⟨ts, hts, rfl⟩ := hfit
  obtain ⟨l, -, -, -, rfl⟩ := layout_of_fit hts
  exact ⟨_, _, hts, rfl, promotesUpdates_of_fit hts⟩

/-- The head of the loop reads `x`, so `x` is promoted. -/
theorem promoted_iff_of_update_sample :
    (⟨[Sample.counting Sample.whileX]⟩ : Program).fit 6 =
        .ok ⟨[promoteUnit "event.Join" [Sample.counting₀ Sample.whileX, Sample.counting₁]], []⟩ ∧
      Sample.counted Sample.whileX ∈ (Sample.counting₀ Sample.whileX).sites
        [Sample.counting₀ Sample.whileX, Sample.counting₁] ∧
      UpdatedApart "event.Join" (Sample.counted Sample.whileX)
        (.body (.loop Sample.whileX)) "x" ∧
      (promoteUnit "event.Join"
        [Sample.counting₀ Sample.whileX, Sample.counting₁]).promoted = ["x"] ∧
      List.Forall₂ (fun unit u => ∃ first rest, fit 6 unit = .ok (first :: rest) ∧
          u = promoteUnit unit.name (first :: rest) ∧ PromotesUpdates unit first rest u)
        [Sample.counting Sample.whileX]
        [promoteUnit "event.Join" [Sample.counting₀ Sample.whileX, Sample.counting₁]] := by
  have hfit : (⟨[Sample.counting Sample.whileX]⟩ : Program).fit 6 =
      .ok ⟨[promoteUnit "event.Join" [Sample.counting₀ Sample.whileX, Sample.counting₁]], []⟩ := by
    cbv
  exact ⟨hfit, by decide, Sample.counted_apart _, by decide, promoted_iff_of_update_in_loop hfit⟩

/-- The loop reads `x` nowhere but in the update that has moved away, and it sets `x` nowhere else.
The update runs in every round, and `x` keeps line scope. -/
theorem update_in_loop_not_promoted :
    ∃ out, (⟨[Sample.counting Sample.endless]⟩ : Program).fit 6 = .ok out ∧
      fit 6 (Sample.counting Sample.endless) =
        .ok [Sample.counting₀ Sample.endless, Sample.counting₁] ∧
      Sample.counted Sample.endless ∈ (Sample.counting₀ Sample.endless).sites
        [Sample.counting₀ Sample.endless, Sample.counting₁] ∧
      UpdatedApart "event.Join" (Sample.counted Sample.endless)
        (.body (.loop Sample.endless)) "x" ∧
      (∀ s ∈ ownSites (Sample.counting Sample.endless).body,
        s.action.Sets "x" → s.action.Updates "x") ∧
      out.promotions = [] ∧ ∃ t ∈ out.templates, "x" ∈ t.namesIn .line := by
  refine ⟨⟨[promoteUnit "event.Join" [Sample.counting₀ Sample.endless, Sample.counting₁]], []⟩,
    by cbv, by cbv, by decide, Sample.counted_apart _, by decide, by decide, by decide⟩

end Plotline
