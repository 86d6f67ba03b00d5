import Plotline.Proofs.Lowering.Conformance

/-!
# What a loop tells about its condition

A loop on a condition has one of two forms. When the check needs no setup and has no target, the
loop checks it itself: its head has the name of the check, its arguments and whether it is negated.
Otherwise the loop runs forever and stops by a guard, which is the check turned around.

The guard has everything that the check has. The head of the other form lacks the category of the
check, and the names of checks do not make up for it: `IsNear` is a check of players and one of
entities, with the same parameters. No other name is in two categories (`Catalog.near_of_shared`).
`loops_merged_iff` says that this is all that is lost: loops over different checks become the same
instruction exactly when one asks for a player and the other for an entity near the same place, and
their bodies are the same.
-/

namespace Plotline

open Instruction Script

/-! ## The two forms -/

/-- The loop that checks its condition itself. -/
def checkingLoop (check : Check) (body : List Instruction) : Instruction :=
  .bracket (.loop ⟨"While", check.args, some check.name, check.inverted⟩) [] body none

/-- The loop that stops when the condition fails. -/
def guardedLoop (setup : List Instruction) (check : Check) (body : List Instruction) :
    Instruction :=
  .bracket (.loop ⟨"Forever", [], none, false⟩) []
    (.bracket (.branch { check with inverted := !check.inverted }) setup
      [.action ⟨.control, "StopRepeat", [], none⟩] none :: body) none

/-- The check needs no setup and has no target. -/
def Lowered.IsDirect (r : Lowered Check) : Prop := r.code = [] ∧ r.result.target = none

section

variable {r : Lowered Check} {body : List Instruction} {span : Span}

theorem conditionLoop_of_isDirect (h : r.IsDirect) :
    conditionLoop r.code r.result body span = .ok (checkingLoop r.result body) := by
  obtain ⟨hcode, htarget⟩ := h
  rw [conditionLoop, hcode, htarget]
  rfl

theorem conditionLoop_of_not_isDirect (h : ¬ r.IsDirect) :
    conditionLoop r.code r.result body span = .ok (guardedLoop r.code r.result body) := by
  have hdirect : ¬ (r.code.isEmpty = true ∧ r.result.target.isNone = true) := by
    rw [List.isEmpty_iff, Option.isNone_iff_eq_none]
    exact h
  rw [conditionLoop, if_neg hdirect]
  rfl

end

/-! ## What the forms have in common -/

theorem checkingLoop_eq_iff {check check' : Check} {body body' : List Instruction} :
    checkingLoop check body = checkingLoop check' body' ↔
      body = body' ∧ check.name = check'.name ∧ check.args = check'.args ∧
        check.inverted = check'.inverted := by
  simp only [checkingLoop, Instruction.bracket.injEq, Head.loop.injEq, Loop.mk.injEq,
    Option.some.injEq, true_and, and_true]
  tauto

theorem guardedLoop_eq_iff {setup setup' : List Instruction} {check check' : Check}
    {body body' : List Instruction} :
    guardedLoop setup check body = guardedLoop setup' check' body' ↔
      body = body' ∧ setup = setup' ∧ check = check' := by
  cases check
  cases check'
  simp only [guardedLoop, Instruction.bracket.injEq, List.cons.injEq, Head.branch.injEq,
    Check.mk.injEq, Bool.not_inj_iff, true_and, and_true]
  tauto

theorem checkingLoop_ne_guardedLoop {setup : List Instruction} {check check' : Check}
    {body body' : List Instruction} : checkingLoop check body ≠ guardedLoop setup check' body' := by
  simp [checkingLoop, guardedLoop]

/-- Checks without a target that agree but for the category. -/
theorem with_block_eq_iff {check check' : Check} (h : check.target = none)
    (h' : check'.target = none) : { check with block := check'.block } = check' ↔
      check.name = check'.name ∧ check.args = check'.args ∧ check.inverted = check'.inverted := by
  cases check
  cases check'
  cases h
  cases h'
  simp only [Check.mk.injEq, true_and]

theorem Lowered.IsDirect.congr {r r' : Lowered Check} (h : r.IsDirect) (hcode : r.code = r'.code)
    (hresult : r.result = r'.result) : r'.IsDirect := by
  unfold Lowered.IsDirect
  rw [← hcode, ← hresult]
  exact h

/-- Loops are the same if their bodies are and the checks with their setups are. Besides, loops
that check their condition themselves do not tell the category. -/
theorem conditionLoop_eq_iff {r r' : Lowered Check} {body body' : List Instruction}
    {span span' : Span} {i i' : Instruction}
    (h : conditionLoop r.code r.result body span = .ok i)
    (h' : conditionLoop r'.code r'.result body' span' = .ok i') :
    i = i' ↔ body = body' ∧ (r.code = r'.code ∧ r.result = r'.result ∨
      r.IsDirect ∧ r'.IsDirect ∧ { r.result with block := r'.result.block } = r'.result) := by
  by_cases hdirect : r.IsDirect <;> by_cases hdirect' : r'.IsDirect
  · rw [conditionLoop_of_isDirect hdirect] at h
    rw [conditionLoop_of_isDirect hdirect'] at h'
    cases h
    cases h'
    rw [checkingLoop_eq_iff, ← with_block_eq_iff hdirect.2 hdirect'.2]
    refine and_congr_right fun _ => ⟨fun heq => Or.inr ⟨hdirect, hdirect', heq⟩, ?_⟩
    rintro (⟨-, heq⟩ | ⟨-, -, heq⟩)
    · rw [heq]
    · exact heq
  · rw [conditionLoop_of_isDirect hdirect] at h
    rw [conditionLoop_of_not_isDirect hdirect'] at h'
    cases h
    cases h'
    refine iff_of_false checkingLoop_ne_guardedLoop ?_
    rintro ⟨-, ⟨hcode, hresult⟩ | ⟨-, hdirect'', -⟩⟩
    · exact hdirect' (hdirect.congr hcode hresult)
    · exact hdirect' hdirect''
  · rw [conditionLoop_of_not_isDirect hdirect] at h
    rw [conditionLoop_of_isDirect hdirect'] at h'
    cases h
    cases h'
    refine iff_of_false checkingLoop_ne_guardedLoop.symm ?_
    rintro ⟨-, ⟨hcode, hresult⟩ | ⟨hdirect'', -⟩⟩
    · exact hdirect (hdirect'.congr hcode.symm hresult.symm)
    · exact hdirect hdirect''
  · rw [conditionLoop_of_not_isDirect hdirect] at h
    rw [conditionLoop_of_not_isDirect hdirect'] at h'
    cases h
    cases h'
    rw [guardedLoop_eq_iff]
    refine and_congr_right fun _ => (or_iff_left ?_).symm
    exact fun hboth => hdirect hboth.1

/-! ## Names of checks -/

/-- The categories of checks. -/
def checkBlocks : List BlockKind := [.ifPlayer, .ifEntity, .ifGame, .ifVar]

theorem Catalog.mem_names_of_signature? {block : BlockKind} {name : String} {s : Signature}
    (h : signature? block name = some s) : name ∈ (entries block).map Prod.fst := by
  obtain ⟨e, he, -⟩ := Option.map_eq_some_iff.mp h
  have hname : e.1 = name := by simpa using List.find?_some he
  rw [← hname]
  exact List.mem_map_of_mem (List.mem_of_find?_eq_some he)

/-- Players and entities have one check in common, and no other two categories have any. -/
theorem Catalog.near_of_shared {block block' : BlockKind} {name : String} {s s' : Signature}
    (hblock : block ∈ checkBlocks) (hblock' : block' ∈ checkBlocks)
    (h : signature? block name = some s) (h' : signature? block' name = some s')
    (hne : block ≠ block') : name = "IsNear" ∧
      (block = .ifPlayer ∧ block' = .ifEntity ∨ block = .ifEntity ∧ block' = .ifPlayer) := by
  have htable : ∀ b ∈ checkBlocks, ∀ b' ∈ checkBlocks, ∀ n ∈ (entries b).map Prod.fst,
      n ∈ (entries b').map Prod.fst → b ≠ b' → n = "IsNear" ∧
        (b = .ifPlayer ∧ b' = .ifEntity ∨ b = .ifEntity ∧ b' = .ifPlayer) := by
    decide
  exact htable block hblock block' hblock' name (mem_names_of_signature? h)
    (mem_names_of_signature? h') hne

/-! ## Loops of a script -/

/-- The checks ask for a player and for an entity near the same place. -/
structure Check.NearTwins (c c' : Check) : Prop where
  name : c.name = "IsNear"
  blocks : c.block = .ifPlayer ∧ c'.block = .ifEntity ∨ c.block = .ifEntity ∧ c'.block = .ifPlayer
  same : { c with block := c'.block } = c'

theorem Check.NearTwins.ne {c c' : Check} (h : c.NearTwins c') : c ≠ c' := by
  rintro rfl
  rcases h.blocks with ⟨hplayer, hentity⟩ | ⟨hentity, hplayer⟩ <;>
    · rw [hplayer] at hentity
      cases hentity

/-- Checks of conditions that agree but for the category agree, or are twins. -/
theorem Script.Condition.nearTwins_of_ne {b : Bindings} {cond cond' : Condition} {k : Nat}
    {r r' : Lowered Check} (h : cond.lower b k = .ok r) (h' : cond'.lower b k = .ok r')
    (hsame : { r.result with block := r'.result.block } = r'.result)
    (hne : r.result ≠ r'.result) : r.result.NearTwins r'.result := by
  obtain ⟨u, hu⟩ := Condition.filled (d := {}) h
  obtain ⟨u', hu'⟩ := Condition.filled (d := {}) h'
  obtain ⟨s, -, -, hs, -⟩ := hu.args
  obtain ⟨s', -, -, hs', -⟩ := hu'.args
  have hblocks : u.block ≠ u'.block := by
    intro heq
    apply hne
    rw [← hsame, hu'.block, ← heq, ← hu.block]
  have hname : u.name = u'.name := by
    rw [← hu.name, ← hu'.name, ← hsame]
  rw [← hname] at hs'
  obtain ⟨hnear, hboth⟩ := Catalog.near_of_shared hu.isCheck hu'.isCheck hs hs' hblocks
  exact ⟨hu.name.trans hnear, by rw [hu.block, hu'.block]; exact hboth, hsame⟩

/-- What a loop on a condition was made of: the check of the condition, and the instructions of the
body. -/
structure Script.Condition.LoopParts (s : Surroundings) (c : Cursor) (cond : Condition)
    (body : List Statement) (r : Lowered Check) (is : List Instruction) : Prop where
  check : cond.lower c.bindings c.temps = .ok r
  body : ∃ temps, Statement.lowerAll body { s with inLoop := true } ⟨c.bindings, r.temps⟩ =
    .ok (is, temps)

theorem Script.Statement.lower_whilst {s : Surroundings} {c c' : Cursor} {cond : Condition}
    {body : List Statement} {bodySpan span : Span} {code : List Instruction}
    (h : (Statement.loop (.whilst cond) body bodySpan span).lower s c = .ok (code, c')) :
    ∃ r is i, cond.LoopParts s c body r is ∧ conditionLoop r.code r.result is span = .ok i ∧
      code = [i] := by
  rw [Statement.lower] at h
  obtain ⟨l, hl, hrest⟩ := bind_eq_ok h
  obtain ⟨r, hr, hret⟩ := bind_eq_ok hl
  cases hret
  obtain ⟨⟨is, temps⟩, hbody, hrest⟩ := bind_eq_ok hrest
  obtain ⟨i, hi, hret⟩ := bind_eq_ok hrest
  cases hret
  exact ⟨r, is, i, ⟨hr, temps, hbody⟩, hi, rfl⟩

/-- **Loops and their conditions.** Two loops on conditions in the same place become the same
although their checks differ exactly when these need no setup and no target, ask for a player and
for an entity near the same place, and the bodies become the same. -/
theorem loops_merged_iff {s : Surroundings} {c c₁ c₂ : Cursor} {cond₁ cond₂ : Condition}
    {body₁ body₂ : List Statement} {bodySpan₁ bodySpan₂ span₁ span₂ : Span}
    {code₁ code₂ : List Instruction}
    (h₁ : (Statement.loop (.whilst cond₁) body₁ bodySpan₁ span₁).lower s c = .ok (code₁, c₁))
    (h₂ : (Statement.loop (.whilst cond₂) body₂ bodySpan₂ span₂).lower s c = .ok (code₂, c₂)) :
    ∃ r₁ r₂ is₁ is₂, cond₁.LoopParts s c body₁ r₁ is₁ ∧ cond₂.LoopParts s c body₂ r₂ is₂ ∧
      (code₁ = code₂ ∧ r₁.result ≠ r₂.result ↔
        is₁ = is₂ ∧ r₁.IsDirect ∧ r₂.IsDirect ∧ r₁.result.NearTwins r₂.result) := by
  obtain ⟨r₁, is₁, i₁, hparts₁, hloop₁, rfl⟩ := Statement.lower_whilst h₁
  obtain ⟨r₂, is₂, i₂, hparts₂, hloop₂, rfl⟩ := Statement.lower_whilst h₂
  refine ⟨r₁, r₂, is₁, is₂, hparts₁, hparts₂, ?_⟩
  rw [List.singleton_inj, conditionLoop_eq_iff hloop₁ hloop₂]
  constructor
  · rintro ⟨⟨hbody, ⟨-, heq⟩ | ⟨hdirect₁, hdirect₂, hsame⟩⟩, hne⟩
    · exact absurd heq hne
    · exact ⟨hbody, hdirect₁, hdirect₂,
        Condition.nearTwins_of_ne hparts₁.check hparts₂.check hsame hne⟩
  · rintro ⟨hbody, hdirect₁, hdirect₂, htwins⟩
    exact ⟨⟨hbody, Or.inr ⟨hdirect₁, hdirect₂, htwins.same⟩⟩, htwins.ne⟩

namespace Sample

/-- Whether somebody is at home. -/
def near (family : Family) : Condition :=
  .check {
    family
    name := ⟨"IsNear", .unknown⟩
    args := [.variable ⟨⟨"home", .unknown⟩, some .saved⟩ .unknown]
  }

def nearCheck (block : BlockKind) : Check := ⟨block, "IsNear", [.var "home" .saved], none, false⟩

theorem lower_near_player : (near .player).lower [] 0 = .ok ⟨[], nearCheck .ifPlayer, 0⟩ := by
  rfl

theorem lower_near_entity : (near .entity).lower [] 0 = .ok ⟨[], nearCheck .ifEntity, 0⟩ := by
  rfl

def waitWhile (c : Condition) : Statement :=
  .loop (.whilst c) [.wait none [] .unknown] .unknown .unknown

/-- The place in which the loops stand: an event without declarations. -/
def event : Surroundings := ⟨{}, true, false⟩

/-- What both loops become. -/
def nearLoop : Instruction :=
  .bracket (.loop ⟨"While", [.var "home" .saved], some "IsNear", false⟩) []
    [.action ⟨.control, "Wait", [.tag ⟨"Wait", "Time Unit", "Ticks", "control"⟩], none⟩] none

theorem lower_waitWhile_player : (waitWhile (near .player)).lower event ⟨[], 0⟩ =
    .ok ([nearLoop], ⟨[], 0⟩) := by
  rfl

theorem lower_waitWhile_entity : (waitWhile (near .entity)).lower event ⟨[], 0⟩ =
    .ok ([nearLoop], ⟨[], 0⟩) := by
  rfl

end Sample

/-- Two loops that become the same, so that their checks are twins. -/
theorem loops_merged_near : ∃ r₁ r₂ : Lowered Check,
    (Sample.near .player).lower [] 0 = .ok r₁ ∧ (Sample.near .entity).lower [] 0 = .ok r₂ ∧
      r₁.IsDirect ∧ r₂.IsDirect ∧ r₁.result.NearTwins r₂.result := by
  obtain ⟨r₁, r₂, is₁, is₂, hparts₁, hparts₂, hmerged⟩ :=
    loops_merged_iff Sample.lower_waitWhile_player Sample.lower_waitWhile_entity
  have hne : r₁.result ≠ r₂.result := by
    obtain rfl := Except.ok.inj (Sample.lower_near_player.symm.trans hparts₁.check)
    obtain rfl := Except.ok.inj (Sample.lower_near_entity.symm.trans hparts₂.check)
    decide
  obtain ⟨-, htwins⟩ := hmerged.mp ⟨rfl, hne⟩
  exact ⟨r₁, r₂, hparts₁.check, hparts₂.check, htwins⟩

/-- A loop does not tell its condition: one on a player near home and one on an entity near home
become the same. -/
theorem near_loops_same : ¬ ∀ (s : Surroundings) (c c₁ c₂ : Cursor) (cond₁ cond₂ : Condition)
    (body₁ body₂ : List Statement) (bodySpan₁ bodySpan₂ span₁ span₂ : Span)
    (code : List Instruction) (r₁ r₂ : Lowered Check),
    (Statement.loop (.whilst cond₁) body₁ bodySpan₁ span₁).lower s c = .ok (code, c₁) →
    (Statement.loop (.whilst cond₂) body₂ bodySpan₂ span₂).lower s c = .ok (code, c₂) →
    cond₁.lower c.bindings c.temps = .ok r₁ → cond₂.lower c.bindings c.temps = .ok r₂ →
    r₁.result = r₂.result := by
  intro hall
  have heq := hall Sample.event ⟨[], 0⟩ ⟨[], 0⟩ ⟨[], 0⟩ (Sample.near .player) (Sample.near .entity)
    _ _ _ _ _ _ _ _ _ Sample.lower_waitWhile_player Sample.lower_waitWhile_entity
    Sample.lower_near_player Sample.lower_near_entity
  cases heq

end Plotline
