import Plotline.Proofs.Fitting.Promotion
import Plotline.Proofs.Fitting.Sites

/-!
# Fitting a reassembled program again

The templates of a fitted program, put together and fitted again on the same plot, come out as they
were, and nothing is left to promote (`fit_reassemble_of_fit`). Three things are behind this:

* what the fitting decides depends on weights, exits and names, none of which changes with the
  values (`refits_steps`): a unit with changed values is cut at the same places;
* reassembling a unit gives the unit with its promotions made (`Program.forall₂_reassemble`);
* after one promotion no line variable is left in two templates, so that a second one finds nothing
  (`promoteUnit_promoted`).
-/

namespace Plotline

open Instruction

/-! ## What the fitting looks at -/

section

variable (f : Value → Value)

theorem mapValues_bracket (head : Head) (setup body : List Instruction)
    (other : Option (List Instruction)) :
    (bracket head setup body other).mapValues f =
      bracket (head.mapArgs f) (mapValuesAll f setup) (mapValuesAll f body)
        (other.map (mapValuesAll f)) := by
  cases other <;> rfl

theorem mapValuesAll_concat_link (p : Plot) (is : List Instruction) (n : Nat) :
    mapValuesAll f (is ++ [p.link n]) = mapValuesAll f is ++ [p.link n] := by
  rw [mapValuesAll_append]
  rfl

theorem mapValuesAll_ne_nil {is : List Instruction} (h : is ≠ []) : mapValuesAll f is ≠ [] := by
  cases is with
  | nil => exact absurd rfl h
  | cons i is => exact List.cons_ne_nil _ _

theorem reserve_mapValuesAll (is : List Instruction) :
    reserve (mapValuesAll f is) = reserve is := by
  cases is <;> rfl

/-- Whether a node still fits is decided on weights. -/
theorem load_mapValues (placed : List Instruction) (node : Instruction) (rest : List Instruction) :
    1 + weightAll (mapValuesAll f placed) + (node.mapValues f).weight +
        reserve (mapValuesAll f rest) =
      1 + weightAll placed + node.weight + reserve rest := by
  rw [weightAll_mapValuesAll, weight_mapValues, reserve_mapValuesAll]

theorem shellWeight_mapValuesAll (setup : List Instruction) (other : Option (List Instruction)) :
    shellWeight (mapValuesAll f setup) (other.map (mapValuesAll f)) = shellWeight setup other := by
  unfold shellWeight frameWeight
  rw [weightAll_mapValuesAll, Option.isSome_map]

mutual

theorem escapingExit?_mapValues (inLoop : Bool) : ∀ i : Instruction,
    escapingExit? inLoop (i.mapValues f) = escapingExit? inLoop i
  | .action a => by
    unfold mapValues escapingExit?
    rfl
  | .call c => by
    unfold mapValues escapingExit?
    rfl
  | .bracket head setup body none => by
    unfold mapValues escapingExit?
    rw [isLoop_mapArgs, escapingExitAll?_mapValuesAll _ body]
  | .bracket head setup body (some rest) => by
    unfold mapValues escapingExit?
    rw [isLoop_mapArgs, escapingExitAll?_mapValuesAll _ body, escapingExitAll?_mapValuesAll _ rest]

theorem escapingExitAll?_mapValuesAll (inLoop : Bool) : ∀ is : List Instruction,
    escapingExitAll? inLoop (mapValuesAll f is) = escapingExitAll? inLoop is
  | [] => rfl
  | i :: is => by
    unfold mapValuesAll escapingExitAll?
    rw [escapingExit?_mapValues inLoop i, escapingExitAll?_mapValuesAll inLoop is]

end

theorem keep_mapValuesAll (budget : Nat) (is : List Instruction) :
    keep budget (mapValuesAll f is) =
      (mapValuesAll f (keep budget is).1, mapValuesAll f (keep budget is).2) := by
  induction is generalizing budget with
  | nil => rfl
  | cons i is ih =>
    rw [mapValuesAll, keep, keep, weight_mapValues]
    by_cases hfit : i.weight + 1 ≤ budget
    · simp only [if_pos hfit, ih, mapValuesAll]
    · simp only [if_neg hfit, mapValuesAll]

end

/-! ## Fitting with changed values -/

/-- A run on changed values takes the same steps. The templates that the brackets of a template were
cut into come with these brackets, so there are none while the template is empty. -/
theorem refits_steps (p : Plot) (f : Value → Value) :
    RunSteps p
      (fun placed n nodes c => ∀ header inner, (placed = [] → inner = []) →
        pack p header (mapValuesAll f placed) inner n (mapValuesAll f nodes) =
          .ok (⟨header, mapValuesAll f c.kept⟩ :: inner ++ c.templates.map (Template.mapValues f),
            c.last))
      (fun head setup body other available n b =>
        splitBracket p (head.mapArgs f) (mapValuesAll f setup) (mapValuesAll f body)
            (other.map (mapValuesAll f)) available n =
          .ok ⟨b.kept.mapValues f, b.templates.map (Template.mapValues f), b.last⟩)
      (fun head body budget n b =>
        splitBody p (head.mapArgs f) (mapValuesAll f body) budget n =
          .ok ⟨mapValuesAll f b.kept, b.templates.map (Template.mapValues f), b.last⟩) where
  done placed n := by
    intro header inner _
    unfold mapValuesAll
    rw [pack_nil]
    simp
  take {placed n node rest c} hfit ih := by
    intro header inner _
    have hplaced := ih header inner (by simp)
    rw [mapValuesAll_append] at hplaced
    rw [mapValuesAll, pack_of_fits (by rwa [load_mapValues])]
    exact hplaced
  spill {placed n node rest c} hfull hne ih := by
    intro header inner _
    have hnext := ih (.continuation (p.continuation (n + 1))) [] (fun _ => rfl)
    rw [mapValuesAll, mapValuesAll] at hnext
    rw [mapValuesAll, pack_of_full (by rwa [load_mapValues]) (mapValuesAll_ne_nil f hne), hnext,
      ok_bind]
    unfold Plot.linked
    rw [mapValuesAll_concat_link]
    simp [Template.mapValues, pure, Except.pure]
  cut {n head setup body other rest b c} hfull hb ih := by
    intro header inner hinner
    have hfull' : p.capacity <
        1 + weightAll [] + (bracket head setup body other).weight + reserve rest := by
      rwa [weightAll]
    rw [← load_mapValues f, mapValues_bracket] at hfull'
    have hrest := ih header (b.templates.map (Template.mapValues f)) (by simp)
    rw [hinner rfl, mapValuesAll, mapValuesAll, mapValues_bracket, pack_of_bracket hfull',
      reserve_mapValuesAll, hb, ok_bind]
    rw [mapValuesAll, mapValuesAll] at hrest
    rw [hrest]
    simp
  single {head setup body available n b} hroom hb := by
    have hshell := shellWeight_mapValuesAll f setup none
    rw [Option.map_none] at hshell ⊢
    rw [splitBracket_none (by rwa [hshell]), hshell, hb]
    rfl
  double {head setup body other available n b o} hroom hb ho := by
    have hshell := shellWeight_mapValuesAll f setup (some other)
    rw [Option.map_some] at hshell ⊢
    rw [splitBracket_some (by rwa [hshell]), hshell, hb, ok_bind, weightAll_mapValuesAll, ho,
      List.map_append]
    rfl
  whole {head body budget n} hfit := by
    rw [splitBody_of_fits (by rwa [weightAll_mapValuesAll])]
    rfl
  split {head body budget n c} hheavy hexit ih := by
    have hexit' : escapingExitAll? false (keep budget (mapValuesAll f body)).2 = none := by
      rw [keep_mapValuesAll]
      rwa [escapingExitAll?_mapValuesAll]
    have hrest := ih (.continuation (p.continuation (n + 1))) [] (fun _ => rfl)
    rw [mapValuesAll] at hrest
    rw [splitBody_of_heavy (by rwa [weightAll_mapValuesAll]) hexit', keep_mapValuesAll, hrest,
      ok_bind]
    unfold Plot.linked
    rw [mapValuesAll_concat_link]
    rfl

/-- A unit with changed values is cut at the same places. -/
theorem fit_mapValues {capacity : Nat} {unit : Template} {ts : List Template}
    (h : fit capacity unit = .ok ts) (f : Value → Value) :
    fit capacity (unit.mapValues f) = .ok (ts.map (Template.mapValues f)) := by
  obtain ⟨c, rfl, hrun⟩ := (refits_steps ⟨capacity, unit.name⟩ f).fit h
  have hpack := hrun unit.header [] (fun _ => rfl)
  rw [mapValuesAll] at hpack
  show (pack ⟨capacity, unit.name⟩ unit.header [] [] 0 (mapValuesAll f unit.body)).map Prod.fst = _
  rw [hpack]
  rfl

/-! ## Promoting again -/

theorem Head.mapArgs_id {f : Value → Value} (h : ∀ v, f v = v) (head : Head) :
    head.mapArgs f = head := by
  cases head <;> simp [Head.mapArgs, funext h]

mutual

theorem mapValues_id {f : Value → Value} (h : ∀ v, f v = v) : ∀ i : Instruction, i.mapValues f = i
  | .action a => by
    unfold mapValues
    rw [funext h, List.map_id']
  | .call c => by
    unfold mapValues
    rw [funext h, List.map_id']
  | .bracket head setup body none => by
    unfold mapValues
    rw [Head.mapArgs_id h, mapValuesAll_id h setup, mapValuesAll_id h body]
  | .bracket head setup body (some rest) => by
    unfold mapValues
    rw [Head.mapArgs_id h, mapValuesAll_id h setup, mapValuesAll_id h body, mapValuesAll_id h rest]

theorem mapValuesAll_id {f : Value → Value} (h : ∀ v, f v = v) : ∀ is : List Instruction,
    mapValuesAll f is = is
  | [] => rfl
  | i :: is => by
    unfold mapValuesAll
    rw [mapValues_id h i, mapValuesAll_id h is]

end

theorem Template.promote_nil (t : Template) : t.promote [] = t := by
  have hid : ∀ v : Value,
      v.mapScope (fun v => if v.name ∈ ([] : List String) then v.scope.promoted else v.scope) =
        v := by
    intro v
    cases v <;> rfl
  unfold Template.promote Template.mapValues
  rw [mapValuesAll_id hid]

/-- After a promotion no name is shared. -/
theorem sharedNames_templates (name : String) (ts : List Template) :
    sharedNames (promoteUnit name ts).templates = [] := by
  rw [List.eq_nil_iff_forall_not_mem]
  intro x hx
  obtain ⟨t, t', hsub, ht, ht'⟩ := mem_sharedNames_iff.mp hx
  have hapart := (promotesShared_promoteUnit name ts).apart
  exact List.pairwise_iff_forall_sublist.mp hapart hsub x ht ht'

/-- A second promotion changes nothing. -/
theorem promoteUnit_promoted (name : String) (ts : List Template) :
    promoteUnit name (promoteUnit name ts).templates =
      { promoteUnit name ts with promoted := [] } := by
  have hsame : (promoteUnit name ts).templates.map (Template.promote []) =
      (promoteUnit name ts).templates := by
    rw [funext Template.promote_nil, List.map_id']
  rw [promoteUnit, sharedNames_templates, hsame]
  rfl

theorem Template.FittedTo.refitted {capacity : Nat} {unit : Template} {u : PromotedUnit}
    (h : unit.FittedTo capacity u) :
    (unit.promote u.promoted).FittedTo capacity { u with promoted := [] } := by
  obtain ⟨ts, hfit, rfl⟩ := h
  refine ⟨(promoteUnit unit.name ts).templates, fit_mapValues hfit _, ?_⟩
  exact (promoteUnit_promoted unit.name ts).symm

/-! ## Reassembled units -/

/-- Reassembling gives the units with their promotions made. -/
theorem Program.forall₂_reassemble {P : Program} {capacity : Nat} {out : FittedProgram}
    (h : P.fit capacity = .ok out) (hfresh : P.Fresh) :
    List.Forall₂ (fun u unit' => ∃ unit : Template, unit.FittedTo capacity u ∧
        unit' = unit.promote u.promoted)
      out.units (reassemble out.templates).units := by
  have hvisible : out.templates.filter (fun t => !t.header.isContinuation) =
      out.units.flatMap fun u => u.templates.filter fun t => !t.header.isContinuation := by
    rw [FittedProgram.templates, List.filter_flatMap]
  unfold reassemble
  dsimp only
  rw [hvisible, List.map_flatMap]
  have hself : List.Forall₂ (· = ·) out.units out.units := List.forall₂_same.mpr fun _ _ => rfl
  refine forall₂_flatMap hself ?_
  rintro u hu _ _ rfl
  obtain ⟨unit, hunit, hfit⟩ := exists_of_mem_right (Program.units_of_fit h) hu
  obtain ⟨l, hl⟩ := hfit.laidOut
  refine ⟨unit.promote u.promoted, ?_, unit, hfit, rfl⟩
  have hjoined := l.inlinedAll_held _ _ _ (hl.leads h hfresh hunit hu)
  rw [hl.filter_visible (hfresh.visible unit hunit), List.map_singleton, List.map_singleton,
    hl.promote_eq h hfresh hu, hl.promote_eq h hfresh hu]
  simp only [Template.mapValues, hjoined, hl.joined]

/-- **Refitting.** The templates of a fitted program, put together and fitted again, are the same,
and there are no further promotions. -/
theorem fit_reassemble_of_fit {P : Program} {capacity : Nat} {out : FittedProgram}
    (h : P.fit capacity = .ok out) (hfresh : P.Fresh) :
    ∃ out', (reassemble out.templates).fit capacity = .ok out' ∧
      out'.templates = out.templates ∧ out'.promotions = [] := by
  have hunits : List.Forall₂ (Template.FittedTo capacity) (reassemble out.templates).units
      (out.units.map fun u => { u with promoted := [] }) := by
    rw [List.forall₂_map_right_iff]
    apply List.Forall₂.flip
    refine (Program.forall₂_reassemble h hfresh).imp ?_
    rintro u _ ⟨unit, hfit, rfl⟩
    exact hfit.refitted
  obtain ⟨out', hout, hsame⟩ := Program.fit_of_units hunits
  refine ⟨out', hout, ?_, ?_⟩
  · unfold FittedProgram.templates
    rw [hsame, List.flatMap_map]
  · unfold FittedProgram.promotions
    rw [hsame, List.flatMap_map]
    simp [PromotedUnit.promotions]

/-- A cut loop and a cut else body are cut again where they were, and `x` keeps its game scope. -/
theorem fit_reassemble_sample :
    Sample.fitted.promotions = [⟨"event.Join", "x"⟩] ∧
      ∃ out', (reassemble Sample.fitted.templates).fit 12 = .ok out' ∧
        out'.templates = Sample.fitted.templates ∧ out'.promotions = [] :=
  ⟨rfl, fit_reassemble_of_fit Sample.program_fit Sample.program_fresh⟩

end Plotline
