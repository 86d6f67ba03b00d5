import Plotline.Proofs.Fitting.Reassembly

/-!
# Where actions stand

A site is an action together with the way to it: into brackets, and over calls into the
continuations they name. `Template.sites` lists the sites that a template leads to when the calls of
continuations are followed by name, in the order in which the actions are written.

Without the calls, the sites of a template are the sites of what reassembling makes of it
(`map_direct_sitesAll`): following calls finds every action of the unit, once and in its place.
-/

namespace Plotline

open Instruction

/-! ## Sites -/

/-- A step on the way to an action. `next` is the way over a call at the end of a template, `aside`
the way over a call at any other place. -/
inductive Passage
  | setup (head : Head)
  | body (head : Head)
  | otherwise (head : Head)
  | next (name : String)
  | aside (name : String)
deriving DecidableEq

namespace Passage

/-- Whether what follows is repeated by a loop. -/
def entersLoop : Passage → Bool
  | .body head | .otherwise head => head.isLoop
  | .setup _ | .next _ | .aside _ => false

/-- The continuation that what follows stands in. -/
def link? : Passage → Option String
  | .next name | .aside name => some name
  | .setup _ | .body _ | .otherwise _ => none

def mapValues (f : Value → Value) : Passage → Passage
  | .setup head => .setup (head.mapArgs f)
  | .body head => .body (head.mapArgs f)
  | .otherwise head => .otherwise (head.mapArgs f)
  | .next name => .next name
  | .aside name => .aside name

end Passage

/-- An action with the way to it from the outside in. -/
structure Site where
  path : List Passage
  action : Action
deriving DecidableEq

namespace Site

def under (q : Passage) (s : Site) : Site := ⟨q :: s.path, s.action⟩

/-- The site as if its continuations stood in the place of their calls. -/
def direct (s : Site) : Site := ⟨s.path.filter fun q => q.link?.isNone, s.action⟩

def mapValues (f : Value → Value) (s : Site) : Site :=
  ⟨s.path.map (Passage.mapValues f), { s.action with args := s.action.args.map f }⟩

end Site

namespace Instruction

mutual

/-- The sites in an instruction; `more?` gives those behind the functions it knows. `final` says
that the instruction is the last of a template. -/
def sites (more? : String → Option (List Site)) (final : Bool) : Instruction → List Site
  | .action a => [⟨[], a⟩]
  | .call c =>
    match c.kind with
    | .function =>
      ((more? c.name).getD []).map (.under (if final then .next c.name else .aside c.name))
    | .process => []
  | .bracket head setup body none =>
    (sitesAll more? false setup).map (.under (.setup head)) ++
      (sitesAll more? false body).map (.under (.body head))
  | .bracket head setup body (some rest) =>
    (sitesAll more? false setup).map (.under (.setup head)) ++
      (sitesAll more? false body).map (.under (.body head)) ++
      (sitesAll more? false rest).map (.under (.otherwise head))

/-- The sites in a list of instructions, which is all of a template or, unless `top`, a part of
one. -/
def sitesAll (more? : String → Option (List Site)) (top : Bool) : List Instruction → List Site
  | [] => []
  | i :: is => sites more? (top && is.isEmpty) i ++ sitesAll more? top is

end

/-- The sites in instructions that call no continuation. -/
def ownSites (is : List Instruction) : List Site := sitesAll (fun _ => none) false is

end Instruction

/-- The sites behind a continuation, over at most `depth` calls in a row. -/
def Continuations.sites? (cs : Continuations) : Nat → String → Option (List Site)
  | 0, _ => none
  | depth + 1, name => (cs.body? name).map (Instruction.sitesAll (cs.sites? depth) true)

/-- The sites that `t` leads to among the templates `ts`. -/
def Template.sites (ts : List Template) (t : Template) : List Site :=
  let cs := Continuations.ofTemplates ts
  Instruction.sitesAll (cs.sites? cs.length) true t.body

/-! ## Sites of parts -/

theorem sitesAll_append (more? : String → Option (List Site)) (is js : List Instruction) :
    sitesAll more? false (is ++ js) = sitesAll more? false is ++ sitesAll more? false js := by
  induction is with
  | nil => rfl
  | cons i is ih =>
    simp only [List.cons_append, sitesAll, Bool.false_and, ih, List.append_assoc]

theorem ownSites_cons (i : Instruction) (is : List Instruction) :
    ownSites (i :: is) = i.sites (fun _ => none) false ++ ownSites is := rfl

theorem ownSites_append (is js : List Instruction) :
    ownSites (is ++ js) = ownSites is ++ ownSites js := sitesAll_append _ is js

mutual

/-- Where no continuation is called, all sites are the instruction's own. -/
theorem sites_of_foreign {more? : String → Option (List Site)} :
    ∀ (i : Instruction) {final : Bool}, Foreign more? i.calls →
      i.sites more? final = i.sites (fun _ => none) false
  | .action a, _, _ => rfl
  | .call ⟨.function, name, args⟩, _, h => by
    have hnone : more? name = none := h _ List.mem_cons_self rfl
    simp only [sites, hnone, Option.getD_none, List.map_nil]
  | .call ⟨.process, name, args⟩, _, _ => rfl
  | .bracket head setup body none, _, h => by
    rw [calls, foreign_append] at h
    simp only [sites, sitesAll_of_foreign setup h.1, sitesAll_of_foreign body h.2, ownSites]
  | .bracket head setup body (some rest), _, h => by
    rw [calls, foreign_append, foreign_append] at h
    simp only [sites, sitesAll_of_foreign setup h.1.1, sitesAll_of_foreign body h.1.2,
      sitesAll_of_foreign rest h.2, ownSites]

theorem sitesAll_of_foreign {more? : String → Option (List Site)} :
    ∀ (is : List Instruction) {top : Bool}, Foreign more? (callsAll is) →
      sitesAll more? top is = ownSites is
  | [], _, _ => rfl
  | i :: is, top, h => by
    rw [callsAll, foreign_append] at h
    rw [sitesAll, sites_of_foreign i h.1, sitesAll_of_foreign is h.2, ownSites_cons]

end

/-! ## Sites without calls -/

theorem direct_under_of_link?_eq_none {q : Passage} (hq : q.link? = none) (s : Site) :
    (s.under q).direct = s.direct.under q := by
  simp [Site.direct, Site.under, hq]

theorem direct_under_of_link?_eq_some {q : Passage} {name : String} (hq : q.link? = some name)
    (s : Site) : (s.under q).direct = s.direct := by
  simp [Site.direct, Site.under, hq]

/-- Dropping the calls from the ways goes past a step into a bracket. -/
theorem map_direct_under {q : Passage} (hq : q.link? = none) (ss : List Site) :
    (ss.map (.under q)).map Site.direct = (ss.map Site.direct).map (.under q) := by
  simp only [List.map_map, Function.comp_def, direct_under_of_link?_eq_none hq]

section

variable {more? : String → Option (List Site)} {body? : String → Option (List Instruction)}

theorem map_direct_link {name : String} {args : List Value} {q : Passage}
    (h : (more? name).map (List.map Site.direct) = (body? name).map ownSites)
    (hq : q.link? = some name) :
    (((more? name).getD []).map (.under q)).map Site.direct =
      ownSites ((body? name).getD [.call ⟨.function, name, args⟩]) := by
  simp only [List.map_map, Function.comp_def, direct_under_of_link?_eq_some hq]
  cases hm : more? name with
  | none =>
    rw [hm, Option.map_none, eq_comm, Option.map_eq_none_iff] at h
    simp [h, ownSites, sitesAll, sites]
  | some ss =>
    rw [hm, Option.map_some] at h
    obtain ⟨body, hbody, heq⟩ := Option.map_eq_some_iff.mp h.symm
    rw [hbody, Option.getD_some, Option.getD_some]
    exact heq.symm

mutual

theorem map_direct_sites
    (hmore : ∀ name, (more? name).map (List.map Site.direct) = (body? name).map ownSites) :
    ∀ (i : Instruction) (final : Bool),
    (i.sites more? final).map Site.direct = ownSites (inlined body? i)
  | .action a, _ => rfl
  | .call ⟨.function, name, args⟩, final => by
    rw [sites, inlined]
    exact map_direct_link (hmore name) (by cases final <;> rfl)
  | .call ⟨.process, name, args⟩, _ => rfl
  | .bracket head setup body none, _ => by
    rw [sites, List.map_append, map_direct_under rfl, map_direct_under rfl,
      map_direct_sitesAll hmore setup, map_direct_sitesAll hmore body, inlined, ownSites_cons, sites]
    exact (List.append_nil _).symm
  | .bracket head setup body (some rest), _ => by
    rw [sites, List.map_append, List.map_append, map_direct_under rfl, map_direct_under rfl,
      map_direct_under rfl, map_direct_sitesAll hmore setup, map_direct_sitesAll hmore body,
      map_direct_sitesAll hmore rest, inlined, ownSites_cons, sites]
    exact (List.append_nil _).symm

/-- Following calls finds the actions that stand there once the calls are replaced. -/
theorem map_direct_sitesAll
    (hmore : ∀ name, (more? name).map (List.map Site.direct) = (body? name).map ownSites) :
    ∀ (is : List Instruction) (top : Bool),
    (sitesAll more? top is).map Site.direct = ownSites (inlinedAll body? is)
  | [], _ => rfl
  | i :: is, top => by
    rw [sitesAll, List.map_append, map_direct_sites hmore i, map_direct_sitesAll hmore is, inlinedAll,
      ownSites_append]

end

end

theorem Continuations.map_direct_sites? (cs : Continuations) (d : Nat) (name : String) :
    (cs.sites? d name).map (List.map Site.direct) = (cs.expanded? d name).map ownSites := by
  induction d generalizing name with
  | zero => rfl
  | succ d ih =>
    simp only [Continuations.sites?, Continuations.expanded?, Option.map_map, Function.comp_def,
      map_direct_sitesAll ih]

/-! ## Sites and values -/

theorem isLoop_mapArgs (f : Value → Value) (head : Head) : (head.mapArgs f).isLoop = head.isLoop := by
  cases head <;> rfl

theorem entersLoop_mapValues (f : Value → Value) (q : Passage) :
    (q.mapValues f).entersLoop = q.entersLoop := by
  cases q <;> simp [Passage.mapValues, Passage.entersLoop, isLoop_mapArgs]

theorem map_mapValues_under (f : Value → Value) (q : Passage) (ss : List Site) :
    (ss.map (.under q)).map (Site.mapValues f) =
      (ss.map (Site.mapValues f)).map (.under (q.mapValues f)) := by
  simp only [List.map_map, Function.comp_def, Site.mapValues, Site.under, List.map_cons]

mutual

theorem sites_mapValues (f : Value → Value) : ∀ i : Instruction,
    (i.mapValues f).sites (fun _ => none) false =
      (i.sites (fun _ => none) false).map (Site.mapValues f)
  | .action a => rfl
  | .call ⟨.function, name, args⟩ => rfl
  | .call ⟨.process, name, args⟩ => rfl
  | .bracket head setup body none => by
    have hsetup := ownSites_mapValuesAll f setup
    have hbody := ownSites_mapValuesAll f body
    rw [ownSites, ownSites] at hsetup hbody
    simp only [mapValues, sites, hsetup, hbody, List.map_append, map_mapValues_under,
      Passage.mapValues]
  | .bracket head setup body (some rest) => by
    have hsetup := ownSites_mapValuesAll f setup
    have hbody := ownSites_mapValuesAll f body
    have hrest := ownSites_mapValuesAll f rest
    rw [ownSites, ownSites] at hsetup hbody hrest
    simp only [mapValues, sites, hsetup, hbody, hrest, List.map_append, map_mapValues_under,
      Passage.mapValues]

theorem ownSites_mapValuesAll (f : Value → Value) : ∀ is : List Instruction,
    ownSites (mapValuesAll f is) = (ownSites is).map (Site.mapValues f)
  | [] => rfl
  | i :: is => by
    rw [mapValuesAll, ownSites_cons, ownSites_cons, List.map_append, sites_mapValues f i,
      ownSites_mapValuesAll f is]

end

/-! ## Ways over no call -/

/-- The way crosses into no continuation. -/
def Site.Uncut (s : Site) : Prop := ∀ q ∈ s.path, q.link? = none

theorem uncut_under {q : Passage} (hq : q.link? = none) {s : Site} (hs : s.Uncut) :
    (s.under q).Uncut := by
  intro r hr
  rcases List.mem_cons.mp hr with rfl | hr
  · exact hq
  · exact hs r hr

theorem uncut_of_mem_map {q : Passage} (hq : q.link? = none) {ss : List Site}
    (hss : ∀ s ∈ ss, s.Uncut) : ∀ s ∈ ss.map (Site.under q), s.Uncut := by
  intro s hs
  obtain ⟨s', hs', rfl⟩ := List.mem_map.mp hs
  exact uncut_under hq (hss s' hs')

mutual

theorem uncut_of_mem_sites : ∀ (i : Instruction), ∀ s ∈ i.sites (fun _ => none) false, s.Uncut
  | .action a, s, hs => by
    obtain rfl := List.mem_singleton.mp hs
    simp [Site.Uncut]
  | .call ⟨.function, name, args⟩, s, hs => by simp [sites] at hs
  | .call ⟨.process, name, args⟩, s, hs => by simp [sites] at hs
  | .bracket head setup body none, s, hs => by
    rw [sites] at hs
    rcases List.mem_append.mp hs with hs | hs
    · exact uncut_of_mem_map rfl (uncut_of_mem_ownSites setup) s hs
    · exact uncut_of_mem_map rfl (uncut_of_mem_ownSites body) s hs
  | .bracket head setup body (some rest), s, hs => by
    rw [sites] at hs
    rcases List.mem_append.mp hs with hs | hs
    · rcases List.mem_append.mp hs with hs | hs
      · exact uncut_of_mem_map rfl (uncut_of_mem_ownSites setup) s hs
      · exact uncut_of_mem_map rfl (uncut_of_mem_ownSites body) s hs
    · exact uncut_of_mem_map rfl (uncut_of_mem_ownSites rest) s hs

theorem uncut_of_mem_ownSites : ∀ (is : List Instruction), ∀ s ∈ ownSites is, s.Uncut
  | [], s, hs => by cases hs
  | i :: is, s, hs => by
    rw [ownSites_cons] at hs
    rcases List.mem_append.mp hs with hs | hs
    · exact uncut_of_mem_sites i s hs
    · exact uncut_of_mem_ownSites is s hs

end

end Plotline
