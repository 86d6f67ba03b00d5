import Mathlib.Data.List.Permutation
import Plotline.Fitting.Program
import Plotline.Proofs.General
import Plotline.Proofs.Outcome

/-!
# Runs of the fitting

`pack`, `splitBracket` and `splitBody` call each other. This file says once what a run that
succeeds can do: `RunSteps p P B S` lists the steps, with the condition under which each of them is
taken, as the closure properties of three predicates on the arguments and the outcome of the three
functions. `RunSteps.runs` is the induction: what every step preserves holds of every run that
succeeds. `RunSteps.fit` is the case of a whole unit, and `Program.units_of_fit` takes a program
apart into its units.

The outcome of `pack` is read as a `Cut`: the body of the first template, the further templates and
the number of the last continuation.
-/

namespace Plotline

open Instruction

/-! ## The three functions, case by case -/

section

variable {p : Plot} {header : Header} {placed : List Instruction} {inner : List Template} {n : Nat}
  {node : Instruction} {rest : List Instruction}

theorem pack_nil : pack p header placed inner n [] = .ok (⟨header, placed⟩ :: inner, n) := by
  rw [pack]

theorem pack_of_fits (h : 1 + weightAll placed + node.weight + reserve rest ≤ p.capacity) :
    pack p header placed inner n (node :: rest) =
      pack p header (placed ++ [node]) inner n rest := by
  rw [pack.eq_def]
  exact if_pos h

theorem pack_of_full (h : p.capacity < 1 + weightAll placed + node.weight + reserve rest)
    (hne : placed ≠ []) :
    pack p header placed inner n (node :: rest) =
      (pack p (.continuation (p.continuation (n + 1))) [] [] (n + 1) (node :: rest) >>= fun r =>
        pure (⟨header, placed ++ [p.link (n + 1)]⟩ :: inner ++ r.1, r.2)) := by
  rw [pack.eq_def]
  exact (if_neg (Nat.not_le.mpr h)).trans (if_pos hne)

theorem pack_of_bracket {head : Head} {setup body : List Instruction}
    {other : Option (List Instruction)}
    (h : p.capacity < 1 + weightAll [] + (bracket head setup body other).weight + reserve rest) :
    pack p header [] inner n (bracket head setup body other :: rest) =
      (splitBracket p head setup body other (p.capacity - (1 + reserve rest)) n >>= fun b =>
        pack p header [b.kept] b.templates b.last rest) := by
  rw [pack.eq_def]
  exact (if_neg (Nat.not_le.mpr h)).trans (if_neg (fun hne => hne rfl))

theorem pack_of_simple
    (hnode : ∀ head setup body other, node = bracket head setup body other → False)
    (h : p.capacity < 1 + weightAll [] + node.weight + reserve rest) :
    pack p header [] inner n (node :: rest) =
      .error (.unsplittable p.unit node.describe p.capacity) := by
  rw [pack.eq_def]
  refine (if_neg (Nat.not_le.mpr h)).trans ((if_neg (fun hne => hne rfl)).trans ?_)
  cases node with
  | action a => rfl
  | call c => rfl
  | bracket head setup body other => exact (hnode head setup body other rfl).elim

variable {head : Head} {setup body other : List Instruction} {available budget : Nat}

theorem splitBracket_of_narrow {other : Option (List Instruction)}
    (h : available < shellWeight setup other + linkSlots other) :
    splitBracket p head setup body other available n =
      .error (.unsplittable p.unit head.describe p.capacity) := by
  rw [splitBracket.eq_def]
  exact if_pos h

theorem splitBracket_none (h : shellWeight setup none + 1 ≤ available) :
    splitBracket p head setup body none available n =
      (splitBody p head body (available - shellWeight setup none) n >>= fun b =>
        pure ⟨bracket head setup b.kept none, b.templates, b.last⟩) := by
  rw [splitBracket.eq_def]
  exact if_neg (Nat.not_lt.mpr h)

theorem splitBracket_some (h : shellWeight setup (some other) + 2 ≤ available) :
    splitBracket p head setup body (some other) available n =
      (splitBody p head body (available - shellWeight setup (some other) - 1) n >>= fun b =>
        splitBody p head other
          (available - shellWeight setup (some other) - weightAll b.kept) b.last >>= fun o =>
        pure ⟨bracket head setup b.kept (some o.kept), b.templates ++ o.templates, o.last⟩) := by
  rw [splitBracket.eq_def]
  exact if_neg (Nat.not_lt.mpr h)

theorem splitBody_of_fits (h : weightAll body ≤ budget) :
    splitBody p head body budget n = .ok ⟨body, [], n⟩ := by
  rw [splitBody.eq_def]
  exact if_pos h

theorem splitBody_of_exit {exit : Exit} (h : budget < weightAll body)
    (hexit : escapingExitAll? false (keep budget body).2 = some exit) :
    splitBody p head body budget n = .error (.splitExit p.unit head.describe exit) := by
  rw [splitBody.eq_def, if_neg (Nat.not_le.mpr h), hexit]

theorem splitBody_of_heavy (h : budget < weightAll body)
    (hexit : escapingExitAll? false (keep budget body).2 = none) :
    splitBody p head body budget n =
      (pack p (.continuation (p.continuation (n + 1))) [] [] (n + 1) (keep budget body).2 >>=
        fun r => pure ⟨(keep budget body).1 ++ [p.link (n + 1)], r.1, r.2⟩) := by
  rw [splitBody.eq_def, if_neg (Nat.not_le.mpr h), hexit]

end

/-- At most one slot is kept free. -/
theorem reserve_le (is : List Instruction) : reserve is ≤ 1 := by
  unfold reserve
  split <;> omega

/-- A body that is too heavy is not kept whole. -/
theorem keep_ne_nil {budget : Nat} {is : List Instruction} (h : budget < weightAll is) :
    (keep budget is).2 ≠ [] := by
  induction is generalizing budget with
  | nil => simp [weightAll] at h
  | cons i is ih =>
    rw [weightAll] at h
    rw [keep]
    split
    · exact ih (by omega)
    · simp

/-! ## The steps of a run -/

/-- The instructions `kept`, closed with the call of the next continuation, which holds what `c`
keeps. -/
def Plot.linked (p : Plot) (kept : List Instruction) (n : Nat) (c : Cut (List Instruction)) :
    Cut (List Instruction) :=
  ⟨kept ++ [p.link (n + 1)],
    ⟨.continuation (p.continuation (n + 1)), c.kept⟩ :: c.templates, c.last⟩

/-- What every step of a run preserves: `P` of `pack`, `B` of `splitBracket`, `S` of
`splitBody`. -/
structure RunSteps (p : Plot)
    (P : List Instruction → Nat → List Instruction → Cut (List Instruction) → Prop)
    (B : Head → List Instruction → List Instruction → Option (List Instruction) → Nat → Nat →
      Cut Instruction → Prop)
    (S : Head → List Instruction → Nat → Nat → Cut (List Instruction) → Prop) : Prop where
  done (placed : List Instruction) (n : Nat) : P placed n [] ⟨placed, [], n⟩
  /-- An instruction that fits is placed. -/
  take {placed : List Instruction} {n : Nat} {node : Instruction} {rest : List Instruction}
    {c : Cut (List Instruction)} :
    1 + weightAll placed + node.weight + reserve rest ≤ p.capacity →
    P (placed ++ [node]) n rest c → P placed n (node :: rest) c
  /-- An instruction that does not fit behind others begins the next template. -/
  spill {placed : List Instruction} {n : Nat} {node : Instruction} {rest : List Instruction}
    {c : Cut (List Instruction)} :
    p.capacity < 1 + weightAll placed + node.weight + reserve rest → placed ≠ [] →
    P [] (n + 1) (node :: rest) c → P placed n (node :: rest) (p.linked placed n c)
  /-- A bracket that does not fit an empty template is cut. -/
  cut {n : Nat} {head : Head} {setup body : List Instruction} {other : Option (List Instruction)}
    {rest : List Instruction} {b : Cut Instruction} {c : Cut (List Instruction)} :
    p.capacity < 1 + (bracket head setup body other).weight + reserve rest →
    B head setup body other (p.capacity - (1 + reserve rest)) n b →
    P [b.kept] b.last rest c →
    P [] n (bracket head setup body other :: rest) ⟨c.kept, b.templates ++ c.templates, c.last⟩
  single {head : Head} {setup body : List Instruction} {available n : Nat}
    {b : Cut (List Instruction)} :
    shellWeight setup none + 1 ≤ available →
    S head body (available - shellWeight setup none) n b →
    B head setup body none available n ⟨bracket head setup b.kept none, b.templates, b.last⟩
  /-- The else body gets what the body leaves. -/
  double {head : Head} {setup body other : List Instruction} {available n : Nat}
    {b o : Cut (List Instruction)} :
    shellWeight setup (some other) + 2 ≤ available →
    S head body (available - shellWeight setup (some other) - 1) n b →
    S head other (available - shellWeight setup (some other) - weightAll b.kept) b.last o →
    B head setup body (some other) available n
      ⟨bracket head setup b.kept (some o.kept), b.templates ++ o.templates, o.last⟩
  whole {head : Head} {body : List Instruction} {budget n : Nat} :
    weightAll body ≤ budget → S head body budget n ⟨body, [], n⟩
  /-- The end of a body that is too heavy moves into a continuation. -/
  split {head : Head} {body : List Instruction} {budget n : Nat} {c : Cut (List Instruction)} :
    budget < weightAll body → escapingExitAll? false (keep budget body).2 = none →
    P [] (n + 1) (keep budget body).2 c →
    S head body budget n (p.linked (keep budget body).1 n c)

namespace RunSteps

variable {p : Plot}
  {P : List Instruction → Nat → List Instruction → Cut (List Instruction) → Prop}
  {B : Head → List Instruction → List Instruction → Option (List Instruction) → Nat → Nat →
    Cut Instruction → Prop}
  {S : Head → List Instruction → Nat → Nat → Cut (List Instruction) → Prop}

/-- The induction. The templates that the brackets of a template were cut into come with these
brackets: there are none while the template is empty. -/
theorem runs (s : RunSteps p P B S) :
    (∀ header placed inner n nodes, (placed = [] → inner = []) → ∀ ts last,
      pack p header placed inner n nodes = .ok (ts, last) →
      ∃ c, ts = ⟨header, c.kept⟩ :: inner ++ c.templates ∧ last = c.last ∧ P placed n nodes c) ∧
    (∀ head setup body other available n, ∀ b,
      splitBracket p head setup body other available n = .ok b →
      B head setup body other available n b) ∧
    (∀ head body budget n, ∀ b,
      splitBody p head body budget n = .ok b → S head body budget n b) := by
  apply pack.mutual_induct p
    (fun header placed inner n nodes => (placed = [] → inner = []) → ∀ ts last,
      pack p header placed inner n nodes = .ok (ts, last) →
      ∃ c, ts = ⟨header, c.kept⟩ :: inner ++ c.templates ∧ last = c.last ∧ P placed n nodes c)
    (fun head setup body other available n => ∀ b,
      splitBracket p head setup body other available n = .ok b →
      B head setup body other available n b)
    (fun head body budget n => ∀ b,
      splitBody p head body budget n = .ok b → S head body budget n b)
  -- `pack` at the end of the instructions
  · intro header placed inner n _ ts last h
    rw [pack_nil] at h
    cases h
    exact ⟨⟨placed, [], n⟩, by simp, rfl, s.done placed n⟩
  -- `pack` places an instruction
  · intro header placed inner n node rest hfit ih hinner ts last h
    rw [pack_of_fits hfit] at h
    obtain ⟨c, hts, hlast, hc⟩ := ih (by simp) ts last h
    exact ⟨c, hts, hlast, s.take hfit hc⟩
  -- `pack` begins the next template
  · intro header placed inner n node rest hfit hne ih hinner ts last h
    rw [pack_of_full (Nat.lt_of_not_le hfit) hne] at h
    obtain ⟨⟨ts', last'⟩, hrun, hret⟩ := bind_eq_ok h
    obtain ⟨c, rfl, rfl, hc⟩ := ih (fun _ => rfl) ts' last' hrun
    cases hret
    exact ⟨p.linked placed n c, by simp [Plot.linked], rfl,
      s.spill (Nat.lt_of_not_le hfit) hne hc⟩
  -- `pack` cuts a bracket
  · intro header placed inner n rest hne head setup body other hfit ihb ih hinner ts last h
    obtain rfl : placed = [] := Decidable.not_not.mp hne
    obtain rfl : inner = [] := hinner rfl
    have hfull := Nat.lt_of_not_le hfit
    rw [pack_of_bracket hfull] at h
    obtain ⟨b, hb, hrun⟩ := bind_eq_ok h
    obtain ⟨c, rfl, rfl, hc⟩ := ih b (by simp) ts last hrun
    exact ⟨⟨c.kept, b.templates ++ c.templates, c.last⟩, by simp, rfl,
      s.cut (by simpa [weightAll] using hfull) (ihb b hb) hc⟩
  -- `pack` finds that an action or a call does not fit
  · intro header placed inner n rest hne node hbracket hfit hinner ts last h
    obtain rfl : placed = [] := Decidable.not_not.mp hne
    rw [pack_of_simple hbracket (Nat.lt_of_not_le hfit)] at h
    cases h
  -- `splitBracket` finds too little room
  · intro head setup body other available n _ hshell b h
    rw [splitBracket_of_narrow hshell] at h
    cases h
  -- `splitBracket` cuts the body
  · intro head setup body available n _ hshell ih b h
    have hroom : shellWeight setup none + 1 ≤ available := Nat.not_lt.mp hshell
    rw [splitBracket_none hroom] at h
    obtain ⟨c, hc, hret⟩ := bind_eq_ok h
    cases hret
    exact s.single hroom (ih c hc)
  -- `splitBracket` cuts the body and the else body
  · intro head setup body available n other _ hshell ihb iho b h
    have hroom : shellWeight setup (some other) + 2 ≤ available := Nat.not_lt.mp hshell
    rw [splitBracket_some hroom] at h
    obtain ⟨c, hc, hrest⟩ := bind_eq_ok h
    obtain ⟨o, ho, hret⟩ := bind_eq_ok hrest
    cases hret
    exact s.double hroom (ihb c hc) (iho c o ho)
  -- `splitBody` keeps the whole body
  · intro head body budget n hfit b h
    rw [splitBody_of_fits hfit] at h
    cases h
    exact s.whole hfit
  -- `splitBody` finds an exit behind the part that stays
  · intro head body budget n hfit exit hexit b h
    rw [splitBody_of_exit (Nat.lt_of_not_le hfit) hexit] at h
    cases h
  -- `splitBody` moves the end of the body
  · intro head body budget n hfit hexit ih b h
    have hheavy := Nat.lt_of_not_le hfit
    rw [splitBody_of_heavy hheavy hexit] at h
    obtain ⟨⟨ts, last⟩, hrun, hret⟩ := bind_eq_ok h
    obtain ⟨c, rfl, rfl, hc⟩ := ih (fun _ => rfl) ts last hrun
    cases hret
    exact s.split hheavy hexit hc

/-- What every step preserves holds of the templates of a unit. -/
theorem fit {capacity : Nat} {unit : Template} (s : RunSteps ⟨capacity, unit.name⟩ P B S)
    {ts : List Template} (h : Plotline.fit capacity unit = .ok ts) :
    ∃ c, ts = ⟨unit.header, c.kept⟩ :: c.templates ∧ P [] 0 unit.body c := by
  obtain ⟨⟨ts', last⟩, hrun, rfl⟩ := map_eq_ok h
  obtain ⟨c, hts, -, hc⟩ := s.runs.1 _ _ _ _ _ (fun _ => rfl) ts' last hrun
  exact ⟨c, hts, hc⟩

end RunSteps

/-! ## Programs -/

/-- What becomes of a unit of a program: its templates, promoted. -/
def Template.FittedTo (capacity : Nat) (unit : Template) (u : PromotedUnit) : Prop :=
  ∃ ts, fit capacity unit = .ok ts ∧ u = promoteUnit unit.name ts

/-- A program is fitted unit by unit. -/
theorem Program.units_of_fit {P : Program} {capacity : Nat} {out : FittedProgram}
    (h : P.fit capacity = .ok out) :
    List.Forall₂ (Template.FittedTo capacity) P.units out.units := by
  obtain ⟨groups, hgroups, hret⟩ := bind_eq_ok h
  cases hret
  have hruns := mapM_eq_ok hgroups
  clear h hgroups
  generalize P.units = units at hruns ⊢
  induction hruns with
  | nil => exact .nil
  | @cons unit ts units groups hrun _ ih => exact .cons ⟨ts, hrun, rfl⟩ ih

/-- Units that can be fitted one by one make a program that can be fitted. -/
theorem Program.fit_of_units {P : Program} {capacity : Nat} {us : List PromotedUnit}
    (h : List.Forall₂ (Template.FittedTo capacity) P.units us) :
    ∃ out, P.fit capacity = .ok out ∧ out.units = us := by
  have hgroups : ∃ groups, List.Forall₂ (fun unit ts => Plotline.fit capacity unit = .ok ts)
      P.units groups ∧ List.zipWith (fun u ts => promoteUnit u.name ts) P.units groups = us := by
    generalize P.units = units at h ⊢
    induction h with
    | nil => exact ⟨[], .nil, rfl⟩
    | cons hunit _ ih =>
      obtain ⟨ts, hfit, rfl⟩ := hunit
      obtain ⟨groups, hruns, hzip⟩ := ih
      refine ⟨ts :: groups, .cons hfit hruns, ?_⟩
      rw [List.zipWith_cons_cons, hzip]
  obtain ⟨groups, hruns, rfl⟩ := hgroups
  unfold Program.fit
  rw [mapM_of_forall₂ hruns]
  exact ⟨_, rfl, rfl⟩

/-! ## An example -/

namespace Sample

/-- `x` and a variable that is saved, combined by `op`. -/
def update (op : String) (scope : Scope) : Instruction :=
  .action ⟨.setVar, op, [.var "x" scope, .var "step" .saved], none⟩

def control (name : String) : Instruction := .action ⟨.control, name, [], none⟩

def forever (body : List Instruction) : Instruction :=
  .bracket (.loop ⟨"Forever", [], none, false⟩) [] body none

def sneaking (setup body : List Instruction) (otherwise : Option (List Instruction)) :
    Instruction :=
  .bracket (.branch ⟨.ifPlayer, "IsSneaking", [], none, false⟩) setup body otherwise

/-- A loop with an exit and a branch with an else body, too heavy for twelve slots. -/
def program : Program :=
  ⟨[⟨.event .player "Join",
      [forever [update "+=" .line, sneaking [update "=" .line] [control "StopRepeat"] none,
        control "Wait", update "-=" .line, control "Wait"], .call (.link "f"), control "Return"]⟩,
    ⟨.function "f" [] false,
      [sneaking [] (List.replicate 4 (control "Wait"))
        (some (List.replicate 3 (control "Wait")))]⟩]⟩

/-- The program on a plot of twelve slots. -/
def fitted : FittedProgram :=
  ⟨[⟨"event.Join",
      [⟨.event .player "Join",
          [forever [update "+=" .game, sneaking [update "=" .game] [control "StopRepeat"] none,
            .call (.link "event.Join~1")], .call (.link "event.Join~2")]⟩,
        ⟨.continuation "event.Join~1", [control "Wait", update "-=" .game, control "Wait"]⟩,
        ⟨.continuation "event.Join~2", [.call (.link "f"), control "Return"]⟩], ["x"]⟩,
    ⟨"f",
      [⟨.function "f" [] false,
          [sneaking [] (List.replicate 4 (control "Wait")) (some [.call (.link "f~1")])]⟩,
        ⟨.continuation "f~1", List.replicate 3 (control "Wait")⟩], []⟩], []⟩

theorem program_fit : program.fit 12 = .ok fitted := by
  cbv

end Sample

end Plotline
