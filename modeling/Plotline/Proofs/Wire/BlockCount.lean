import Plotline.Proofs.Fitting.Capacity
import Plotline.Proofs.Wire.Blocks
import Plotline.Proofs.Wire.Overflow

/-!
# A block for every slot

The slots of a template are counted on its tree, before there are any blocks; fitting relies on this
count. The blocks are counted in the document that goes over the wire. `length_flat` follows both
counts through the tree, and they agree: setups, heads, markers and else bodies are counted alike.
So a document of a compiled script has no more blocks than a plot of its tier has slots.
-/

namespace Plotline

open Instruction

/-- The number of entries in the list of blocks of a document. -/
def Json.blockCount? (j : Json) : Option Nat :=
  match j.get? "blocks" with
  | some (.arr blocks) => some blocks.length
  | _ => none

namespace Wire

mutual

/-- An instruction has as many blocks as it takes slots. -/
theorem length_flat : ∀ i : Instruction, (flat i).length = i.weight
  | .action a => by rw [flat, weight, List.length_singleton]
  | .call c => by rw [flat, weight, List.length_singleton]
  | .bracket head setup body none => by
    -- the head and the two markers around the body
    rw [flat, weight, ← length_flatAll setup, ← length_flatAll body]
    simp only [List.length_append, List.length_cons, List.length_nil]
    omega
  | .bracket head setup body (some rest) => by
    -- as above, and a block and two markers for the else body
    rw [flat, weight, ← length_flatAll setup, ← length_flatAll body, ← length_flatAll rest]
    simp only [List.length_append, List.length_cons, List.length_nil]
    omega

theorem length_flatAll : ∀ is : List Instruction, (flatAll is).length = weightAll is
  | [] => by rw [flatAll, weightAll, List.length_nil]
  | i :: is => by rw [flatAll, weightAll, List.length_append, length_flat i, length_flatAll is]

end

theorem Document.blockCount?_toJson (d : Document) :
    d.toJson.blockCount? = some d.blocks.length := by
  unfold Document.toJson Json.blockCount?
  simp [Json.get?, Json.member?]

end Wire

theorem Template.length_blocks {t : Template} {d : Wire.Document} (h : t.document = .ok d) :
    d.blocks.length = t.weight := by
  rw [Template.blocks_of_document h, List.length_cons, Wire.length_flatAll, Template.weight]
  omega

/-! ## Compiled scripts -/

theorem Tier.capacity_pos (tier : Tier) : 1 ≤ tier.capacity := by
  cases tier <;> decide

/-- The templates of a unit fit, promoted or not. -/
theorem Template.FittedTo.fits {capacity : Nat} {unit : Template} {u : PromotedUnit}
    (hc : 1 ≤ capacity) (h : unit.FittedTo capacity u) : Fits capacity u.templates := by
  obtain ⟨ts, hfit, rfl⟩ := h
  intro t ht
  obtain ⟨t', ht', rfl⟩ := List.mem_map.mp ht
  rw [Template.weight_promote]
  exact fits_of_fit hc hfit t' ht'

theorem Script.fits_of_compile {s : Script} {tier : Tier} {c : Compilation}
    (h : s.compile tier = .ok c) : Fits tier.capacity c.templates := by
  obtain ⟨-, hfit, -⟩ := Script.stages_of_compile h
  intro t ht
  obtain ⟨u, hu, htu⟩ := List.mem_flatMap.mp ht
  obtain ⟨unit, -, hfitted⟩ := exists_of_mem_right (Program.units_of_fit hfit) hu
  exact hfitted.fits tier.capacity_pos t htu

/-- **Blocks.** The document of a template lists one block for every slot that the template takes.
So every document of a compiled script, as its codes hold them, has at most as many blocks as a plot
of the tier has slots. -/
theorem blockCount_eq_weight :
    (∀ (t : Template) (d : Wire.Document), t.document = .ok d →
        d.toJson.blockCount? = some t.weight) ∧
      ∀ (s : Script) (tier : Tier) (c : Compilation), s.compile tier = .ok c →
        List.Forall₂ (fun t code => ∃ d n, t.document = .ok d ∧
            code = ⟨t.name, d.toJson.code⟩ ∧ d.toJson.blockCount? = some n ∧ n ≤ tier.capacity)
          c.templates c.codes := by
  have hcount : ∀ (t : Template) (d : Wire.Document), t.document = .ok d →
      d.toJson.blockCount? = some t.weight := by
    intro t d hd
    rw [Wire.Document.blockCount?_toJson, Template.length_blocks hd]
  refine ⟨hcount, ?_⟩
  intro s tier c h
  obtain ⟨-, -, hpackage⟩ := Script.stages_of_compile h
  refine forall₂_imp_mem (Package.codes_of_ofTemplates hpackage) ?_
  rintro t ht code - ⟨d, hd, hcode⟩
  exact ⟨d, t.weight, hd, hcode, hcount t d hd, Script.fits_of_compile h t ht⟩

namespace Sample

def patrolTemplate : Template := ⟨.event .player "Join", patrolCode⟩

theorem fit_patrol : Program.fit ⟨[patrolTemplate]⟩ Tier.basic.capacity =
    .ok ⟨[⟨"event.Join", [patrolTemplate], []⟩], []⟩ := by
  cbv

theorem patrolTemplate_holds : patrolTemplate.Holds := by
  simp [Template.Holds, patrolTemplate, Header.params, patrolCode, HoldsAll, Holds, Head.args,
    chestSlots]

theorem compile_patrol : ∃ c, patrol.compile .basic = .ok c ∧ c.templates = [patrolTemplate] := by
  obtain ⟨c, hcompile, hfitted⟩ :=
    Script.compile_of_narrow lower_patrol fit_patrol (by decide)
  refine ⟨c, hcompile, ?_⟩
  rw [Compilation.templates, hfitted]
  rfl

end Sample

/-- A loop with a guard and a branch with an else body: 21 slots and 21 blocks. -/
theorem blockCount_patrol :
    (∃ d, Sample.patrolTemplate.document = .ok d ∧ d.toJson.blockCount? = some 21) ∧
      ∃ c, Sample.patrol.compile .basic = .ok c ∧ c.templates = [Sample.patrolTemplate] ∧
        List.Forall₂ (fun t code => ∃ d n, t.document = .ok d ∧
            code = ⟨t.name, d.toJson.code⟩ ∧ d.toJson.blockCount? = some n ∧ n ≤ 50)
          c.templates c.codes := by
  obtain ⟨d, hd⟩ := Template.succeeds_document.mpr Sample.patrolTemplate_holds
  obtain ⟨c, hcompile, htemplates⟩ := Sample.compile_patrol
  exact ⟨⟨d, hd, blockCount_eq_weight.1 _ d hd⟩, c, hcompile, htemplates,
    blockCount_eq_weight.2 _ _ c hcompile⟩

end Plotline
