import Plotline.Proofs.Fitting.Run

/-!
# Layouts

A layout shows a list of instructions spread over templates as a tree: the instructions in their
order, brackets that were cut, and at the end of a template or of a cut body the continuation that
takes over. Three readings of a layout matter: the instructions without the cuts (`joined`), what
its first template holds (`held`) and the templates behind that one (`behind`).

`neededLayout_of_fit`: the templates of a unit are those of a layout of its body, in which
continuations are numbered in the order of the templates, no cut moves an exit away from what it
leaves, and no bracket is cut that could stay whole. No condition on names is needed, since a layout
knows its continuations from the run and not from their names.
-/

namespace Plotline

open Instruction

mutual

/-- Instructions from some place in a template on. -/
inductive Layout
  | done
  | node (i : Instruction) (rest : Layout)
  | cut (b : CutBracket) (rest : Layout)
  | next (n : Nat) (rest : Layout)

/-- A bracket that was cut, without or with an else body. -/
inductive CutBracket
  | single (head : Head) (setup : List Instruction) (body : CutBody)
  | double (head : Head) (setup : List Instruction) (body other : CutBody)

/-- A body of a bracket that was cut. Its end may have moved into a continuation. -/
inductive CutBody
  | whole (is : List Instruction)
  | split (kept : List Instruction) (n : Nat) (rest : Layout)

end

/-! ## Readings of a layout -/

mutual

/-- The instructions that were laid out. -/
def Layout.joined : Layout → List Instruction
  | .done => []
  | .node i rest => i :: rest.joined
  | .cut b rest => b.joined :: rest.joined
  | .next _ rest => rest.joined

def CutBracket.joined : CutBracket → Instruction
  | .single head setup body => .bracket head setup body.joined none
  | .double head setup body other => .bracket head setup body.joined (some other.joined)

def CutBody.joined : CutBody → List Instruction
  | .whole is => is
  | .split kept _ rest => kept ++ rest.joined

end

/-- What is left of a body: a call stands for what has moved. -/
def CutBody.held (p : Plot) : CutBody → List Instruction
  | .whole is => is
  | .split kept n _ => kept ++ [p.link n]

def CutBracket.held (p : Plot) : CutBracket → Instruction
  | .single head setup body => .bracket head setup (body.held p) none
  | .double head setup body other => .bracket head setup (body.held p) (some (other.held p))

/-- What the template at hand holds. -/
def Layout.held (p : Plot) : Layout → List Instruction
  | .done => []
  | .node i rest => i :: rest.held p
  | .cut b rest => b.held p :: rest.held p
  | .next n _ => [p.link n]

mutual

/-- The templates behind the one at hand, in their order. -/
def Layout.behind (p : Plot) : Layout → List Template
  | .done => []
  | .node _ rest => rest.behind p
  | .cut b rest => b.behind p ++ rest.behind p
  | .next n rest => ⟨.continuation (p.continuation n), rest.held p⟩ :: rest.behind p

def CutBracket.behind (p : Plot) : CutBracket → List Template
  | .single _ _ body => body.behind p
  | .double _ _ body other => body.behind p ++ other.behind p

def CutBody.behind (p : Plot) : CutBody → List Template
  | .whole _ => []
  | .split _ n rest => ⟨.continuation (p.continuation n), rest.held p⟩ :: rest.behind p

end

/-- The templates of a layout. -/
def Layout.templates (p : Plot) (header : Header) (l : Layout) : List Template :=
  ⟨header, l.held p⟩ :: l.behind p

mutual

/-- The numbers of the continuations, in the order of the templates. -/
def Layout.numbers : Layout → List Nat
  | .done => []
  | .node _ rest => rest.numbers
  | .cut b rest => b.numbers ++ rest.numbers
  | .next n rest => n :: rest.numbers

def CutBracket.numbers : CutBracket → List Nat
  | .single _ _ body => body.numbers
  | .double _ _ body other => body.numbers ++ other.numbers

def CutBody.numbers : CutBody → List Nat
  | .whole _ => []
  | .split _ n rest => n :: rest.numbers

end

mutual

/-- No exit has moved out of a bracket without the loop or function that it leaves. -/
def Layout.Guarded : Layout → Prop
  | .done => True
  | .node _ rest => rest.Guarded
  | .cut b rest => b.Guarded ∧ rest.Guarded
  | .next _ rest => rest.Guarded

def CutBracket.Guarded : CutBracket → Prop
  | .single _ _ body => body.Guarded
  | .double _ _ body other => body.Guarded ∧ other.Guarded

def CutBody.Guarded : CutBody → Prop
  | .whole _ => True
  | .split _ _ rest => escapingExitAll? false rest.joined = none ∧ rest.Guarded

end

mutual

/-- The brackets that were cut, also those in what has moved out of others. -/
def Layout.cuts : Layout → List CutBracket
  | .done => []
  | .node _ rest => rest.cuts
  | .cut b rest => b :: (b.cuts ++ rest.cuts)
  | .next _ rest => rest.cuts

def CutBracket.cuts : CutBracket → List CutBracket
  | .single _ _ body => body.cuts
  | .double _ _ body other => body.cuts ++ other.cuts

def CutBody.cuts : CutBody → List CutBracket
  | .whole _ => []
  | .split _ _ rest => rest.cuts

end

def CutBody.isSplit : CutBody → Bool
  | .whole _ => false
  | .split .. => true

/-- Whether something has moved out of the bracket. -/
def CutBracket.isSplit : CutBracket → Bool
  | .single _ _ body => body.isSplit
  | .double _ _ body other => body.isSplit || other.isSplit

/-- The bracket had to be cut, even if a slot is kept free behind it. -/
structure CutBracket.Needed (capacity : Nat) (b : CutBracket) : Prop where
  heavy : capacity < b.joined.weight + 2
  split : b.isSplit = true

theorem CutBody.held_of_not_isSplit {p : Plot} {b : CutBody} (h : b.isSplit = false) :
    b.held p = b.joined := by
  cases b with
  | whole is => rfl
  | split kept n rest => cases h

/-! ## Headers of the templates behind -/

/-- Headers of continuations. -/
def Plot.headers (p : Plot) (ns : List Nat) : List Header :=
  ns.map fun n => .continuation (p.continuation n)

mutual

theorem Layout.headers_behind (p : Plot) :
    ∀ l : Layout, (l.behind p).map Template.header = p.headers l.numbers
  | .done => rfl
  | .node _ rest => rest.headers_behind p
  | .cut b rest => by
    simp only [Layout.behind, Layout.numbers, List.map_append, b.headers_behind p,
      rest.headers_behind p, Plot.headers]
  | .next n rest => by
    simpa [Layout.behind, Layout.numbers, Plot.headers] using rest.headers_behind p

theorem CutBracket.headers_behind (p : Plot) :
    ∀ b : CutBracket, (b.behind p).map Template.header = p.headers b.numbers
  | .single _ _ body => body.headers_behind p
  | .double _ _ body other => by
    simp only [CutBracket.behind, CutBracket.numbers, List.map_append, body.headers_behind p,
      other.headers_behind p, Plot.headers]

theorem CutBody.headers_behind (p : Plot) :
    ∀ b : CutBody, (b.behind p).map Template.header = p.headers b.numbers
  | .whole _ => rfl
  | .split _ n rest => by
    simpa [CutBody.behind, CutBody.numbers, Plot.headers] using rest.headers_behind p

end

/-! ## Every run has a layout -/

/-- The numbers that follow `n`. -/
def Follow (n : Nat) (ns : List Nat) : Prop := ns = List.range' (n + 1) ns.length

theorem follow_nil (n : Nat) : Follow n [] := rfl

theorem follow_cons {n : Nat} {ns : List Nat} (h : Follow (n + 1) ns) :
    Follow n ((n + 1) :: ns) := by
  rw [Follow, List.length_cons, List.range'_succ, ← show ns = _ from h]

theorem follow_append {n : Nat} {ns ms : List Nat} (hn : Follow n ns)
    (hm : Follow (n + ns.length) ms) : Follow n (ns ++ ms) := by
  have hshift : n + ns.length + 1 = n + 1 + ns.length := by omega
  rw [Follow, hshift] at hm
  rw [Follow, List.length_append, ← List.range'_append_1, ← show ns = _ from hn, ← hm]

/-- A bracket is cut only if it does not fit, and then one of its bodies is too heavy for what it is
given. -/
theorem layout_steps (p : Plot) :
    RunSteps p
      (fun placed n nodes c => ∃ l : Layout, l.joined = nodes ∧ Follow n l.numbers ∧ l.Guarded ∧
        (∀ b ∈ l.cuts, b.Needed p.capacity) ∧
        c = ⟨placed ++ l.held p, l.behind p, n + l.numbers.length⟩)
      (fun head setup body other available n c => ∃ b : CutBracket,
        b.joined = .bracket head setup body other ∧ Follow n b.numbers ∧ b.Guarded ∧
        (∀ b' ∈ b.cuts, b'.Needed p.capacity) ∧ (available < b.joined.weight → b.isSplit = true) ∧
        c = ⟨b.held p, b.behind p, n + b.numbers.length⟩)
      (fun _ body budget n c => ∃ b : CutBody, b.joined = body ∧ Follow n b.numbers ∧ b.Guarded ∧
        (∀ b' ∈ b.cuts, b'.Needed p.capacity) ∧ (budget < weightAll body → b.isSplit = true) ∧
        c = ⟨b.held p, b.behind p, n + b.numbers.length⟩) where
  done placed n := by
    refine ⟨.done, rfl, follow_nil n, trivial, by simp [Layout.cuts], ?_⟩
    simp [Layout.held, Layout.behind, Layout.numbers]
  take {placed n node rest c} _ ih := by
    obtain ⟨l, rfl, hnum, hguard, hcuts, rfl⟩ := ih
    refine ⟨.node node l, rfl, hnum, hguard, hcuts, ?_⟩
    simp [Layout.held, Layout.behind, Layout.numbers]
  spill {placed n node rest c} _ _ ih := by
    obtain ⟨l, hjoined, hnum, hguard, hcuts, rfl⟩ := ih
    refine ⟨.next (n + 1) l, hjoined, follow_cons hnum, hguard, hcuts, ?_⟩
    simp [Plot.linked, Layout.held, Layout.behind, Layout.numbers, Nat.add_assoc, Nat.add_comm 1]
  cut {n head setup body other rest b c} hfull hb ih := by
    obtain ⟨b', hb', hbnum, hbguard, hbcuts, hsplit, rfl⟩ := hb
    obtain ⟨l, rfl, hnum, hguard, hcuts, rfl⟩ := ih
    have hneeded : b'.Needed p.capacity := by
      have hpos := weight_pos b'.joined
      have hreserve := reserve_le l.joined
      rw [← hb'] at hfull
      exact ⟨by omega, hsplit (by omega)⟩
    refine ⟨.cut b' l, ?_, follow_append hbnum hnum, ⟨hbguard, hguard⟩, ?_, ?_⟩
    · rw [Layout.joined, hb']
    · exact List.forall_mem_cons.mpr ⟨hneeded, List.forall_mem_append.mpr ⟨hbcuts, hcuts⟩⟩
    · simp [Layout.held, Layout.behind, Layout.numbers, Nat.add_assoc]
  single {head setup body available n b} _ hb := by
    obtain ⟨b', rfl, hnum, hguard, hcuts, hsplit, rfl⟩ := hb
    refine ⟨.single head setup b', rfl, hnum, hguard, hcuts, fun hheavy => hsplit ?_, rfl⟩
    rw [CutBracket.joined, weight_bracket, elseWeight] at hheavy
    omega
  double {head setup body other available n b o} hroom hb ho := by
    obtain ⟨b', rfl, hnum, hguard, hcuts, hsplit, rfl⟩ := hb
    obtain ⟨o', rfl, honum, hoguard, hocuts, hosplit, rfl⟩ := ho
    refine ⟨.double head setup b' o', rfl, follow_append hnum honum, ⟨hguard, hoguard⟩,
      List.forall_mem_append.mpr ⟨hcuts, hocuts⟩, fun hheavy => ?_, ?_⟩
    · rw [CutBracket.joined, weight_bracket, elseWeight] at hheavy
      rw [CutBracket.isSplit, Bool.or_eq_true]
      by_cases hbody : b'.isSplit = true
      · exact Or.inl hbody
      · -- the body stays whole, so it leaves too little for the else body
        have hfits := Nat.not_lt.mp fun hlt => hbody (hsplit hlt)
        refine Or.inr (hosplit ?_)
        dsimp only
        rw [CutBody.held_of_not_isSplit (Bool.eq_false_iff.mpr hbody)]
        omega
    · simp [CutBracket.held, CutBracket.behind, CutBracket.numbers, Nat.add_assoc]
  whole {head body budget n} hfit := by
    refine ⟨.whole body, rfl, follow_nil n, trivial, by simp [CutBody.cuts], fun hheavy => ?_, rfl⟩
    omega
  split {head body budget n c} _ hexit ih := by
    obtain ⟨l, hjoined, hnum, hguard, hcuts, rfl⟩ := ih
    refine ⟨.split (keep budget body).1 (n + 1) l, ?_, follow_cons hnum, ⟨?_, hguard⟩, hcuts,
      fun _ => rfl, ?_⟩
    · rw [CutBody.joined, hjoined, keep_append]
    · rw [hjoined, hexit]
    · simp [Plot.linked, CutBody.held, CutBody.behind, CutBody.numbers, Nat.add_assoc,
        Nat.add_comm 1]

section

variable {capacity : Nat} {unit : Template} {ts : List Template}

/-- The templates of a unit are those of a layout of its body in which no bracket is cut that could
stay whole. -/
theorem neededLayout_of_fit (h : fit capacity unit = .ok ts) :
    ∃ l : Layout, l.joined = unit.body ∧ Follow 0 l.numbers ∧ l.Guarded ∧
      (∀ b ∈ l.cuts, b.Needed capacity) ∧ ts = l.templates ⟨capacity, unit.name⟩ unit.header := by
  obtain ⟨c, rfl, l, hjoined, hnum, hguard, hcuts, rfl⟩ :=
    (layout_steps ⟨capacity, unit.name⟩).fit h
  exact ⟨l, hjoined, hnum, hguard, hcuts, rfl⟩

/-- The templates of a unit are those of a layout of its body. -/
theorem layout_of_fit (h : fit capacity unit = .ok ts) :
    ∃ l : Layout, l.joined = unit.body ∧ Follow 0 l.numbers ∧ l.Guarded ∧
      ts = l.templates ⟨capacity, unit.name⟩ unit.header := by
  obtain ⟨l, hjoined, hnum, hguard, -, hts⟩ := neededLayout_of_fit h
  exact ⟨l, hjoined, hnum, hguard, hts⟩

end

end Plotline
