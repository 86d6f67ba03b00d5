import Plotline.Proofs.Fitting.Fault

/-!
# Careful runs of the fitting

`pack` and its companions hand back lists of templates, and their differences stop at zero. Fitting
can also be done in place, on a rack: a place is reserved when a template is begun, and it is filled
when the template is finished, which may be after those that were begun later. The weight of a cut
body is not computed anew but reported by the loop that has cut it, and slots are subtracted without
looking.

`Careful.pack`, `Careful.splitBracket` and `Careful.splitBody` are this program with a check at every
point where it relies on something (`Mishap`). `careful_runs_agree` says that no check ever fails, on
any plot: a careful run ends like `fit`, with the same templates or with the same refusal.
-/

namespace Plotline

open Instruction

namespace Careful

/-! ## Checks -/

/-- What a check may find. -/
inductive Mishap
  /-- More is subtracted than there is. -/
  | underflow
  /-- A body is to be cut to fewer slots than a call takes. -/
  | noRoom
  /-- A body is cut, and nothing is left for the continuation. -/
  | emptyTail
  /-- A body does not have the weight that is reported for it. -/
  | miscounted
  /-- A body is heavier than allowed. -/
  | overBudget
  /-- A template is put where there is no place. -/
  | outOfBounds
  /-- A template is put where there is one already. -/
  | placeTaken
deriving DecidableEq

/-- Why there are no templates: the unit does not fit, or a check has failed. -/
inductive Stop
  | refused (e : FittingError)
  | mishap (m : Mishap)
deriving DecidableEq

def demand (check : Prop) [Decidable check] (m : Mishap) : Except Stop Unit :=
  if check then .ok () else .error (.mishap m)

def minus (a b : Nat) : Except Stop Nat := do
  demand (b ≤ a) .underflow
  return a - b

/-! ## Racks -/

/-- The places for the templates of a unit, and the number of the last continuation. -/
structure Rack where
  places : List (Option Template)
  last : Nat

namespace Rack

/-- The rack with one more place reserved, for the next continuation. -/
def reserved (r : Rack) : Rack := ⟨r.places ++ [none], r.last + 1⟩

/-- The place that is reserved next. -/
def next (r : Rack) : Nat := r.places.length

def fill (r : Rack) (place : Nat) (t : Template) : Except Stop Rack := do
  demand (place < r.places.length) .outOfBounds
  demand (r.places[place]? = some none) .placeTaken
  return { r with places := r.places.set place (some t) }

end Rack

/-! ## The run -/

/-- A body that is cut: what stays, with its weight, and what does not. -/
structure Sifted where
  kept : List Instruction
  used : Nat
  rest : List Instruction

/-- The first instructions of a body stay as long as they fit the budget together with a call. -/
def sift (budget used : Nat) : List Instruction → Sifted
  | [] => ⟨[], used, []⟩
  | i :: is =>
    if used + i.weight + 1 ≤ budget then
      let s := sift budget (used + i.weight) is
      ⟨i :: s.kept, s.used, s.rest⟩
    else ⟨[], used, i :: is⟩

theorem sift_eq (budget used : Nat) (is : List Instruction) :
    sift budget used is = ⟨(keep (budget - used) is).1,
      used + weightAll (keep (budget - used) is).1, (keep (budget - used) is).2⟩ := by
  induction is generalizing used with
  | nil => rfl
  | cons i is ih =>
    rw [sift, keep]
    by_cases h : used + i.weight + 1 ≤ budget
    · rw [if_pos h, if_pos (show i.weight + 1 ≤ budget - used by omega), ih, Nat.sub_sub]
      simp only [weightAll, Nat.add_assoc]
    · rw [if_neg h, if_neg (show ¬ i.weight + 1 ≤ budget - used by omega)]
      rfl

theorem weightAll_rest_sift (budget : Nat) (is : List Instruction) :
    weightAll (sift budget 0 is).rest ≤ weightAll is := by
  rw [sift_eq]
  exact weightAll_keep _ _

/-- A body that is cut, the weight that is reported for it, and the rack: the weight has to be right
and within the budget. -/
def audited (budget : Nat) (b : List Instruction × Nat × Rack) :
    Except Stop (List Instruction × Nat × Rack) := do
  demand (weightAll b.1 = b.2.1) .miscounted
  demand (b.2.1 ≤ budget) .overBudget
  return b

mutual

/-- Puts the instructions `nodes` into the template at `place`, which holds `placed` and uses `used`
slots, and into as many continuations as they need. -/
def pack (p : Plot) (r : Rack) (place : Nat) (header : Header) (placed : List Instruction)
    (used : Nat) (nodes : List Instruction) : Except Stop Rack :=
  match nodes with
  | [] => r.fill place ⟨header, placed⟩
  | node :: rest =>
    if used + node.weight + reserve rest ≤ p.capacity then
      pack p r place header (placed ++ [node]) (used + node.weight) rest
    else if placed ≠ [] then do
      let filled ← r.reserved.fill place ⟨header, placed ++ [p.link (r.last + 1)]⟩
      pack p filled r.next (.continuation (p.continuation (r.last + 1))) [] 1 (node :: rest)
    else
      match node with
      | .bracket head setup body other => do
        let cut ← splitBracket p r head setup body other (p.capacity - (used + reserve rest))
        pack p cut.2 place header [cut.1] (used + cut.1.weight) rest
      | node => .error (.refused (.unsplittable p.unit node.describe p.capacity))
termination_by 4 * weightAll nodes + if placed = [] then 0 else 1
decreasing_by
  · have := weight_pos node
    simp only [weightAll]
    split <;> simp <;> omega
  · simp [*]
  · simp only [weightAll, weight_bracket, shellWeight, frameWeight]
    split <;> split <;> omega
  · have := weight_pos (bracket head setup body other)
    simp only [weightAll]
    split <;> simp <;> omega

/-- Cuts a bracket to at most `available` slots. -/
def splitBracket (p : Plot) (r : Rack) (head : Head) (setup body : List Instruction)
    (other : Option (List Instruction)) (available : Nat) : Except Stop (Instruction × Rack) :=
  if available < shellWeight setup other + linkSlots other then
    .error (.refused (.unsplittable p.unit head.describe p.capacity))
  else do
    let budget ← minus available (shellWeight setup other)
    match other with
    | none => do
      let b ← splitBody p r head body budget
      return (.bracket head setup b.1 none, b.2.2)
    | some other => do
      let first ← minus budget 1
      let b ← splitBody p r head body first
      let second ← minus budget b.2.1
      let o ← splitBody p b.2.2 head other second
      return (.bracket head setup b.1 (some o.1), o.2.2)
termination_by 4 * (weightAll body + elseWeight other) + 3
decreasing_by
  all_goals simp only [elseWeight]; omega

/-- Cuts a body to at most `budget` slots, and reports what it weighs then. -/
def splitBody (p : Plot) (r : Rack) (head : Head) (body : List Instruction) (budget : Nat) :
    Except Stop (List Instruction × Nat × Rack) := do
  demand (1 ≤ budget) .noRoom
  if weightAll body ≤ budget then audited budget (body, weightAll body, r)
  else
    let s := sift budget 0 body
    demand (s.rest ≠ []) .emptyTail
    match escapingExitAll? false s.rest with
    | some exit => .error (.refused (.splitExit p.unit head.describe exit))
    | none =>
      let r' ← pack p r.reserved r.next (.continuation (p.continuation (r.last + 1))) [] 1 s.rest
      audited budget (s.kept ++ [p.link (r.last + 1)], s.used + 1, r')
termination_by 4 * weightAll body + 2
decreasing_by
  have := weightAll_rest_sift budget body
  simp
  omega

end

/-- The templates of a unit, in the order in which they were begun. -/
def fit (capacity : Nat) (unit : Template) : Except Stop (List Template) := do
  let r ← pack ⟨capacity, unit.name⟩ ⟨[none], 0⟩ 0 unit.header [] 1 unit.body
  return r.places.filterMap id

/-! ## No check fails -/

/-- How a careful run ends when a plain one ends like this. -/
def outcome {α β : Type} (f : α → β) : Except FittingError α → Except Stop β
  | .ok a => .ok (f a)
  | .error e => .error (.refused e)

/-- A step that agrees, and what follows agrees. -/
theorem outcome_bind {α β γ δ : Type} {x : Except FittingError α} {k : α → β}
    {g : α → Except FittingError γ} {h : β → Except Stop δ} {f : γ → δ}
    (hnext : ∀ a, x = .ok a → h (k a) = outcome f (g a)) :
    outcome k x >>= h = outcome f (x >>= g) := by
  cases x with
  | error e => rfl
  | ok a => exact hnext a rfl

theorem demand_of {check : Prop} [Decidable check] (h : check) (m : Mishap) :
    demand check m = .ok () := if_pos h

theorem minus_of_le {a b : Nat} (h : b ≤ a) : minus a b = .ok (a - b) := by
  rw [minus, demand_of h]
  rfl

/-- A place that was reserved can be filled. -/
theorem fill_reserved (before after : List (Option Template)) (n : Nat) (t : Template) :
    Rack.fill ⟨before ++ none :: after, n⟩ before.length t = .ok ⟨before ++ some t :: after, n⟩ := by
  have hbound : before.length < (before ++ none :: after).length := by simp
  have hfree : (before ++ none :: after)[before.length]? = some none := by simp
  rw [Rack.fill, demand_of hbound, demand_of hfree]
  simp [ok_bind, pure, Except.pure]

/-- A template that is closed with a call, when the place of its continuation is reserved. -/
theorem fill_spilled (before : List (Option Template)) (inner : List Template) (n : Nat)
    (t : Template) :
    (Rack.reserved ⟨before ++ none :: inner.map some, n⟩).fill before.length t =
      .ok ⟨(before ++ some t :: inner.map some) ++ [none], n + 1⟩ := by
  have hplaces : Rack.reserved ⟨before ++ none :: inner.map some, n⟩ =
      ⟨before ++ none :: (inner.map some ++ [none]), n + 1⟩ := by
    simp [Rack.reserved]
  rw [hplaces, fill_reserved]
  simp

section

variable {p : Plot} {r : Rack} {place : Nat} {header : Header} {placed : List Instruction}
  {used : Nat} {node : Instruction} {rest : List Instruction}

theorem pack_of_fits (h : used + node.weight + reserve rest ≤ p.capacity) :
    pack p r place header placed used (node :: rest) =
      pack p r place header (placed ++ [node]) (used + node.weight) rest := by
  rw [pack.eq_def]
  exact if_pos h

theorem pack_of_full (h : p.capacity < used + node.weight + reserve rest) (hne : placed ≠ []) :
    pack p r place header placed used (node :: rest) =
      (r.reserved.fill place ⟨header, placed ++ [p.link (r.last + 1)]⟩ >>= fun filled =>
        pack p filled r.next (.continuation (p.continuation (r.last + 1))) [] 1
          (node :: rest)) := by
  rw [pack.eq_def]
  exact (if_neg (Nat.not_le.mpr h)).trans (if_pos hne)

theorem pack_of_bracket {head : Head} {setup body : List Instruction}
    {other : Option (List Instruction)}
    (h : p.capacity < used + (bracket head setup body other).weight + reserve rest) :
    pack p r place header [] used (bracket head setup body other :: rest) =
      (splitBracket p r head setup body other (p.capacity - (used + reserve rest)) >>= fun cut =>
        pack p cut.2 place header [cut.1] (used + cut.1.weight) rest) := by
  rw [pack.eq_def]
  exact (if_neg (Nat.not_le.mpr h)).trans (if_neg (fun hne => hne rfl))

theorem pack_of_simple
    (hnode : ∀ head setup body other, node = bracket head setup body other → False)
    (h : p.capacity < used + node.weight + reserve rest) :
    pack p r place header [] used (node :: rest) =
      .error (.refused (.unsplittable p.unit node.describe p.capacity)) := by
  rw [pack.eq_def]
  refine (if_neg (Nat.not_le.mpr h)).trans ((if_neg (fun hne => hne rfl)).trans ?_)
  cases node with
  | action a => rfl
  | call c => rfl
  | bracket head setup body other => exact (hnode head setup body other rfl).elim

end

theorem weightAll_kept_le {p : Plot} {head : Head} {body : List Instruction} {budget n : Nat}
    {b : Cut (List Instruction)} (hbudget : 1 ≤ budget)
    (h : Plotline.splitBody p head body budget n = .ok b) : weightAll b.kept ≤ budget := by
  rw [weightAll_of_splitBody h, cutWeight]
  split
  · assumption
  · exact weightAll_keep_lt hbudget body

theorem audited_of {b : List Instruction × Nat × Rack} {budget : Nat}
    (hweight : weightAll b.1 = b.2.1) (hle : b.2.1 ≤ budget) : audited budget b = .ok b := by
  rw [audited, demand_of hweight, ok_bind, demand_of hle]
  rfl

/-- A careful run of `pack` ends like a plain one. The rack holds `before`, the place of the
template at hand, and what the brackets of this template were cut into. -/
def PackAgrees (p : Plot) (header : Header) (placed : List Instruction) (inner : List Template)
    (n : Nat) (nodes : List Instruction) : Prop :=
  (placed = [] → inner = []) → ∀ before,
    pack p ⟨before ++ none :: inner.map some, n⟩ before.length header placed
        (1 + weightAll placed) nodes =
      outcome (fun r => ⟨before ++ r.1.map some, r.2⟩) (Plotline.pack p header placed inner n nodes)

/-- Templates that a bracket is cut into are put behind all others. -/
def BracketAgrees (p : Plot) (head : Head) (setup body : List Instruction)
    (other : Option (List Instruction)) (available n : Nat) : Prop :=
  ∀ places, splitBracket p ⟨places, n⟩ head setup body other available =
    outcome (fun c => (c.kept, ⟨places ++ c.templates.map some, c.last⟩))
      (Plotline.splitBracket p head setup body other available n)

def BodyAgrees (p : Plot) (head : Head) (body : List Instruction) (budget n : Nat) : Prop :=
  1 ≤ budget → ∀ places, splitBody p ⟨places, n⟩ head body budget =
    outcome (fun c => (c.kept, weightAll c.kept, ⟨places ++ c.templates.map some, c.last⟩))
      (Plotline.splitBody p head body budget n)

theorem agrees (p : Plot) :
    (∀ header placed inner n nodes, PackAgrees p header placed inner n nodes) ∧
    (∀ head setup body other available n, BracketAgrees p head setup body other available n) ∧
    (∀ head body budget n, BodyAgrees p head body budget n) := by
  apply Plotline.pack.mutual_induct p (PackAgrees p) (BracketAgrees p) (BodyAgrees p)
  -- `pack` at the end of the instructions
  · intro header placed inner n _ before
    rw [pack_nil, pack.eq_def]
    exact fill_reserved before (inner.map some) n ⟨header, placed⟩
  -- `pack` places an instruction
  · intro header placed inner n node rest hfit ih hinner before
    have hrun := ih (by simp) before
    rw [weightAll_append, weightAll_singleton, ← Nat.add_assoc] at hrun
    rw [Plotline.pack_of_fits hfit, pack_of_fits hfit]
    exact hrun
  -- `pack` begins the next template
  · intro header placed inner n node rest hfit hne ih hinner before
    have hfull := Nat.lt_of_not_le hfit
    have hrun := ih (fun _ => rfl)
      (before ++ some ⟨header, placed ++ [p.link (n + 1)]⟩ :: inner.map some)
    rw [Plotline.pack_of_full hfull hne, pack_of_full hfull hne, fill_spilled, ok_bind]
    have hplace : Rack.next ⟨before ++ none :: inner.map some, n⟩ =
        (before ++ some ⟨header, placed ++ [p.link (n + 1)]⟩ :: inner.map some).length := by
      simp [Rack.next]
    rw [weightAll, Nat.add_zero] at hrun
    rw [hplace]
    refine hrun.trans ?_
    cases Plotline.pack p (.continuation (p.continuation (n + 1))) [] [] (n + 1) (node :: rest) with
    | error e => rfl
    | ok r => simp [outcome, pure, Except.pure, ok_bind]
  -- `pack` cuts a bracket
  · intro header placed inner n rest hne head setup body other hfit ihb ih hinner before
    obtain rfl : placed = [] := Decidable.not_not.mp hne
    obtain rfl : inner = [] := hinner rfl
    have hfull := Nat.lt_of_not_le hfit
    rw [Plotline.pack_of_bracket hfull, pack_of_bracket hfull, weightAll, Nat.add_zero, ihb]
    refine outcome_bind fun cut _ => ?_
    have hrun := ih cut (by simp) before
    rw [weightAll_singleton] at hrun
    rw [← hrun]
    simp
  -- `pack` finds that an action or a call does not fit
  · intro header placed inner n rest hne node hbracket hfit hinner before
    obtain rfl : placed = [] := Decidable.not_not.mp hne
    have hfull := Nat.lt_of_not_le hfit
    rw [Plotline.pack_of_simple hbracket hfull, pack_of_simple hbracket hfull]
    rfl
  -- `splitBracket` finds too little room
  · intro head setup body other available n _ hshell places
    rw [splitBracket_of_narrow hshell, splitBracket.eq_def]
    exact if_pos hshell
  -- `splitBracket` cuts the body
  · intro head setup body available n _ hshell ih places
    have hroom : shellWeight setup none + 1 ≤ available := Nat.not_lt.mp hshell
    rw [splitBracket_none hroom, splitBracket.eq_def, if_neg hshell,
      minus_of_le (show shellWeight setup none ≤ available by omega), ok_bind]
    dsimp only
    rw [ih (by omega)]
    exact outcome_bind fun b _ => rfl
  -- `splitBracket` cuts the body and the else body
  · intro head setup body available n other _ hshell ihb iho places
    have hroom : shellWeight setup (some other) + 2 ≤ available := Nat.not_lt.mp hshell
    rw [splitBracket_some hroom, splitBracket.eq_def, if_neg hshell,
      minus_of_le (show shellWeight setup (some other) ≤ available by omega), ok_bind]
    dsimp only
    rw [minus_of_le (show 1 ≤ available - shellWeight setup (some other) by omega), ok_bind,
      ihb (by omega)]
    refine outcome_bind fun b hb => ?_
    have hkept := weightAll_kept_le (by omega) hb
    dsimp only
    rw [minus_of_le (show weightAll b.kept ≤ available - shellWeight setup (some other) by omega),
      ok_bind, iho b (by omega)]
    refine outcome_bind fun o _ => ?_
    simp [outcome, pure, Except.pure]
  -- `splitBody` keeps the whole body
  · intro head body budget n hfit hbudget places
    rw [splitBody_of_fits hfit, splitBody.eq_def, demand_of hbudget, ok_bind, if_pos hfit,
      audited_of rfl hfit]
    simp [outcome]
  -- `splitBody` finds an exit behind the part that stays
  · intro head body budget n hfit exit hexit hbudget places
    have hheavy := Nat.lt_of_not_le hfit
    rw [splitBody_of_exit hheavy hexit, splitBody.eq_def, demand_of hbudget, ok_bind, if_neg hfit,
      sift_eq, Nat.sub_zero]
    dsimp only
    rw [demand_of (keep_ne_nil hheavy), ok_bind, hexit]
    rfl
  -- `splitBody` moves the end of the body
  · intro head body budget n hfit hexit ih hbudget places
    have hheavy := Nat.lt_of_not_le hfit
    have hrun := ih (fun _ => rfl) places
    rw [weightAll, Nat.add_zero] at hrun
    rw [splitBody_of_heavy hheavy hexit, splitBody.eq_def, demand_of hbudget, ok_bind, if_neg hfit,
      sift_eq, Nat.sub_zero]
    dsimp only
    rw [demand_of (keep_ne_nil hheavy), ok_bind, hexit]
    have hweight : weightAll ((keep budget body).1 ++ [p.link (n + 1)]) =
        0 + weightAll (keep budget body).1 + 1 := by
      rw [weightAll_append_link, Nat.zero_add]
    have hle : 0 + weightAll (keep budget body).1 + 1 ≤ budget := by
      rw [Nat.zero_add]
      exact weightAll_keep_lt hbudget body
    dsimp only [Rack.reserved, Rack.next]
    rw [show pack p ⟨places ++ [none], n + 1⟩ places.length _ [] 1 _ = _ from hrun]
    refine outcome_bind fun r _ => (audited_of hweight hle).trans ?_
    simp [outcome, pure, Except.pure, hweight]

theorem fit_eq (capacity : Nat) (unit : Template) :
    fit capacity unit = (Plotline.fit capacity unit).mapError .refused := by
  have hrun := (agrees ⟨capacity, unit.name⟩).1 unit.header [] [] 0 unit.body (fun _ => rfl) []
  rw [weightAll, Nat.add_zero] at hrun
  rw [fit, Plotline.fit, show pack ⟨capacity, unit.name⟩ ⟨[none], 0⟩ 0 unit.header [] 1 unit.body =
    _ from hrun]
  cases Plotline.pack ⟨capacity, unit.name⟩ unit.header [] [] 0 unit.body with
  | error e => rfl
  | ok r =>
    simp [outcome, pure, Except.pure, ok_bind, Except.map, Except.mapError]

end Careful

/-- **Care.** On every plot, fitting a program in place with all checks ends like fitting it without:
with the same templates, or with the same refusal. So no check fails: no difference is below zero, a
body is only cut when there is room for a call, it then has the weight that is reported and is not
heavier than allowed, something moves into its continuation, and every template is put into a place
that exists and is free. -/
theorem careful_runs_agree (P : Program) (capacity : Nat) :
    P.units.mapM (Careful.fit capacity) =
      (P.units.mapM (fit capacity)).mapError Careful.Stop.refused := by
  rw [funext (Careful.fit_eq capacity)]
  exact mapM_mapError _ _ P.units

end Plotline
