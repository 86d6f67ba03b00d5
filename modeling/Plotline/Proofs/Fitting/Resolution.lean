import Plotline.Fitting.Tier
import Plotline.Proofs.Fitting.Linkage
import Plotline.Proofs.Lowering.Calls

/-!
# Where calls lead

A call of a function leads to the templates whose header has the name that is called. It should be
one template, so the functions of a fitted program, continuations and others together, should have
different names. The names that a script defines are told apart when it is lowered, and those of
the continuations of a unit by their numbers. `unambiguous_iff_namesFree` says that what remains is
`NamesFree`: a function of the script may have the name of a continuation, and an event and a
function or process that is named like its unit may both have continuations. Plain names exclude
both.
-/

namespace Plotline

open Instruction

/-! ## Names of functions -/

/-- The name under which what follows the header can be called. -/
def Header.functionName? : Header → Option String
  | .function name _ _ => some name
  | .event .. | .process .. => none

/-- The names of the functions among the templates, continuations included. -/
def functionNames (ts : List Template) : List String :=
  (ts.map Template.header).filterMap Header.functionName?

theorem functionNames_cons (t : Template) (ts : List Template) :
    functionNames (t :: ts) = t.header.functionName?.toList ++ functionNames ts := by
  simp only [functionNames, List.map_cons, List.filterMap_cons]
  cases t.header.functionName? <;> rfl

theorem functionNames_append (ts us : List Template) :
    functionNames (ts ++ us) = functionNames ts ++ functionNames us := by
  simp only [functionNames, List.map_append, List.filterMap_append]

/-- No two functions have the same name, so that every call of a function leads to one template. -/
structure Unambiguous (ts : List Template) : Prop where
  nodup : (functionNames ts).Nodup
  resolves : ∀ c ∈ callsOf ts, c.kind = .function → (functionNames ts).count c.name = 1

theorem Script.functionNames_of_lower {s : Script} {P : Program} (h : s.lower = .ok P) :
    functionNames P.units = s.items.filterMap Item.functionName? := by
  rw [functionNames, headers_of_lower h, List.filterMap_map]
  congr 1
  funext item
  cases item <;> rfl

/-- The continuations of the units `us` have names of their own in the program `P`. -/
structure NamesFree (P : Program) (us : List PromotedUnit) : Prop where
  /-- No function of the program has the name of a continuation. -/
  unused : ∀ u ∈ us, ∀ n, 1 ≤ n → n < u.templates.length →
    u.name ++ "~" ++ toString n ∉ functionNames P.units
  /-- No two units with continuations have the same name. -/
  apart : ((us.filter fun u => 2 ≤ u.templates.length).map PromotedUnit.name).Nodup

/-! ## Names of a fitted program -/

theorem LaidOut.functionNames_eq {capacity : Nat} {unit : Template} {u : PromotedUnit}
    {l : Layout} (h : LaidOut capacity unit u l) :
    functionNames u.templates = unit.header.functionName?.toList ++ u.linkNames := by
  have hlinks : (u.linkNames.map Header.continuation).filterMap Header.functionName? =
      u.linkNames := by
    rw [List.filterMap_map]
    exact List.filterMap_some
  rw [functionNames, h.headers_eq, List.filterMap_cons, hlinks]
  cases unit.header.functionName? <;> rfl

section

variable {P : Program} {capacity : Nat} {out : FittedProgram}

/-- The functions of a fitted program are those of the program and the continuations. -/
theorem Program.functionNames_perm (h : P.fit capacity = .ok out) :
    (functionNames out.templates).Perm
      (functionNames P.units ++ out.units.flatMap PromotedUnit.linkNames) := by
  have hunits := Program.units_of_fit h
  rw [FittedProgram.templates]
  clear h
  generalize P.units = units, out.units = us at hunits ⊢
  induction hunits with
  | nil => exact .refl _
  | @cons unit u units us hfit _ ih =>
    obtain ⟨l, hl⟩ := hfit.laidOut
    rw [List.flatMap_cons, List.flatMap_cons, functionNames_append, functionNames_cons,
      hl.functionNames_eq, List.append_assoc, List.append_assoc]
    refine List.Perm.append_left _ ((ih.append_left _).trans ?_)
    rw [← List.append_assoc, ← List.append_assoc]
    exact List.perm_append_comm.append_right _

theorem Program.mem_functionNames (h : P.fit capacity = .ok out) {name : String} :
    name ∈ functionNames out.templates ↔
      name ∈ functionNames P.units ∨ ∃ u ∈ out.units, name ∈ u.linkNames := by
  rw [(Program.functionNames_perm h).mem_iff, List.mem_append, List.mem_flatMap]

/-- A call in a fitted program is one of the program, or calls a continuation. -/
theorem call_cases (h : P.fit capacity = .ok out) {c : Call} (hc : c ∈ callsOf out.templates)
    (hkind : c.kind = .function) :
    (∃ c' ∈ callsOf P.units, c'.kind = .function ∧ c'.name = c.name) ∨
      ∃ u ∈ out.units, c.name ∈ u.linkNames := by
  have hpos : 0 < (callsOf out.templates).countP (Call.runs c.name) :=
    List.countP_pos_iff.mpr ⟨c, hc, Call.runs_iff.mpr ⟨hkind, rfl⟩⟩
  rw [Program.countP_callsOf h, Nat.add_pos_iff_pos_or_pos, List.countP_pos_iff,
    List.count_pos_iff, List.mem_flatMap] at hpos
  refine hpos.imp_left ?_
  rintro ⟨c', hc', hruns⟩
  exact ⟨c', hc', Call.runs_iff.mp hruns⟩

variable {s : Script}

/-- Every call of a function in a fitted script leads to some template. -/
theorem Script.resolves_of_fit (hlower : s.lower = .ok P) (hfit : P.fit capacity = .ok out)
    {c : Call} (hc : c ∈ callsOf out.templates) (hkind : c.kind = .function) :
    c.name ∈ functionNames out.templates := by
  rw [Program.mem_functionNames hfit]
  refine (call_cases hfit hc hkind).imp_left ?_
  rintro ⟨c', hc, hkind', hname⟩
  obtain ⟨unit, hunit, hc'⟩ := List.mem_flatMap.mp hc
  rw [Script.functionNames_of_lower hlower, ← hname]
  exact Script.calls_of_lower hlower hunit hc' hkind'

theorem Script.nodup_functionNames_iff (hlower : s.lower = .ok P)
    (hfit : P.fit capacity = .ok out) :
    (functionNames out.templates).Nodup ↔ NamesFree P out.units := by
  obtain ⟨d, hd, -⟩ := Script.forall₂_of_lower hlower
  have hown : (functionNames P.units).Nodup := by
    rw [Script.functionNames_of_lower hlower]
    exact Script.functionNames_nodup hd
  rw [(Program.functionNames_perm hfit).nodup_iff, List.nodup_append', and_iff_right hown,
    nodup_flatMap_linkNames_iff]
  constructor
  · rintro ⟨hapart, hdisjoint⟩
    refine ⟨fun u hu n hpos hn hmem => hdisjoint hmem ?_, hapart⟩
    exact List.mem_flatMap.mpr ⟨u, hu, PromotedUnit.mem_linkNames.mpr ⟨n, ⟨hpos, hn⟩, rfl⟩⟩
  · rintro ⟨hunused, hapart⟩
    refine ⟨hapart, fun name hmem hlink => ?_⟩
    obtain ⟨u, hu, hname⟩ := List.mem_flatMap.mp hlink
    obtain ⟨n, ⟨hpos, hn⟩, rfl⟩ := PromotedUnit.mem_linkNames.mp hname
    exact hunused u hu n hpos hn hmem

theorem Script.PlainNames.namesFree (h : s.PlainNames) (hlower : s.lower = .ok P)
    (hfit : P.fit capacity = .ok out) : NamesFree P out.units where
  unused := by
    intro u _ n _ _ hmem
    rw [Script.functionNames_of_lower hlower] at hmem
    exact ne_continuation (h.of_function hmem) ⟨0, u.name⟩ n rfl
  apart := by
    have hnames := (h.fresh hlower).distinct
    rw [← Program.names_of_fit hfit] at hnames
    exact (List.filter_sublist.map _).nodup hnames

/-- Every call leads somewhere, so names decide whether it leads to one template. -/
theorem Script.unambiguous_iff_nodup (hlower : s.lower = .ok P) (hfit : P.fit capacity = .ok out) :
    Unambiguous out.templates ↔ (functionNames out.templates).Nodup := by
  refine ⟨Unambiguous.nodup, fun hnodup => ⟨hnodup, fun c hc hkind => ?_⟩⟩
  exact List.count_eq_one_of_mem hnodup (Script.resolves_of_fit hlower hfit hc hkind)

end

/-- **Resolution.** In a fitted script every call of a function leads to exactly one template, and
no two functions have the same name, if and only if the names of continuations are free in it; and
they are if no function or process of the script has a tilde or a dot in its name. -/
theorem unambiguous_iff_namesFree {s : Script} {P : Program} {capacity : Nat} {out : FittedProgram}
    (hlower : s.lower = .ok P) (hfit : P.fit capacity = .ok out) :
    (Unambiguous out.templates ↔ NamesFree P out.units) ∧
      (s.PlainNames → Unambiguous out.templates) := by
  have hiff : Unambiguous out.templates ↔ NamesFree P out.units :=
    (Script.unambiguous_iff_nodup hlower hfit).trans (Script.nodup_functionNames_iff hlower hfit)
  exact ⟨hiff, fun hplain => hiff.mpr (hplain.namesFree hlower hfit)⟩

namespace Sample

/-- A function that waits fifty times, and an event that calls it and another function. -/
def script (other : String) : Script :=
  ⟨[.function ⟨"f", .unknown⟩ [] (List.replicate 50 (.wait none [] .unknown)) .unknown .unknown,
    .function ⟨other, .unknown⟩ [] [.wait none [] .unknown] .unknown .unknown,
    .event .player ⟨"Join", .unknown⟩
      [.call ⟨"f", .unknown⟩ [] .unknown, .call ⟨other, .unknown⟩ [] .unknown] .unknown .unknown],
    .unknown⟩

def waitTicks : Instruction :=
  .action ⟨.control, "Wait", [.tag ⟨"Wait", "Time Unit", "Ticks", "control"⟩], none⟩

def lowered (other : String) : Program :=
  ⟨[⟨.function "f" [] false, List.replicate 50 waitTicks⟩,
    ⟨.function other [] false, [waitTicks]⟩,
    ⟨.event .player "Join", [.call (.link "f"), .call (.link other)]⟩]⟩

/-- On a basic plot `f` hands over after 48 times. -/
def loweredBasic (other : String) : FittedProgram :=
  ⟨[⟨"f",
      [⟨.function "f" [] false, List.replicate 48 waitTicks ++ [.call (.link "f~1")]⟩,
        ⟨.continuation "f~1", List.replicate 2 waitTicks⟩], []⟩,
    ⟨other, [⟨.function other [] false, [waitTicks]⟩], []⟩,
    ⟨"event.Join",
      [⟨.event .player "Join", [.call (.link "f"), .call (.link other)]⟩], []⟩], []⟩

theorem script_lower_g : (script "g").lower = .ok (lowered "g") := by
  cbv

theorem script_lower_clash : (script "f~1").lower = .ok (lowered "f~1") := by
  cbv

theorem lowered_fit (other : String) :
    (lowered other).fit Tier.basic.capacity = .ok (loweredBasic other) := by
  cbv

end Sample

/-- The names of two functions and of a continuation are told apart. -/
theorem unambiguous_sample :
    ((Sample.script "g").lower = .ok (Sample.lowered "g") ∧
        (Sample.lowered "g").fit Tier.basic.capacity = .ok (Sample.loweredBasic "g") ∧
        (Sample.script "g").PlainNames) ∧
      (Unambiguous (Sample.loweredBasic "g").templates ↔
        NamesFree (Sample.lowered "g") (Sample.loweredBasic "g").units) ∧
      Unambiguous (Sample.loweredBasic "g").templates := by
  have hplain : (Sample.script "g").PlainNames := by decide
  obtain ⟨hiff, hunambiguous⟩ :=
    unambiguous_iff_namesFree Sample.script_lower_g (Sample.lowered_fit "g")
  exact ⟨⟨Sample.script_lower_g, Sample.lowered_fit "g", hplain⟩, hiff, hunambiguous hplain⟩

/-- A function of the script can have the name of a continuation, and a call of it then leads to
two templates. -/
theorem call_leads_to_two_templates : ∃ s P out, Script.lower s = .ok P ∧
    P.fit Tier.basic.capacity = .ok out ∧ ∃ c ∈ callsOf out.templates,
      c.kind = .function ∧ (functionNames out.templates).count c.name = 2 := by
  refine ⟨_, _, _, Sample.script_lower_clash, Sample.lowered_fit "f~1", .link "f~1", ?_, rfl, ?_⟩
  · decide
  · decide

end Plotline
