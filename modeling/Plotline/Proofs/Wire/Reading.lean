import Plotline.Proofs.Wire.Blocks

/-!
# Reading documents back

A document says nothing about which instructions are the setup of a bracket: they stand in front of
its head like any others. `Template.hoist` moves them there. Apart from that nothing is lost:
`Document.template?` reads the blocks of a template back to the hoisted template
(`template?_of_document`), so templates with finite values have the same document exactly when they
are the same after hoisting (`toJson_eq_iff_hoist_eq`).

Reading goes through the blocks once and keeps the brackets that are still open in a list of frames,
the innermost first. An open marker makes a head of the step before it, and its kind says which
head. A close marker ends the innermost bracket, unless an else block follows.
-/

namespace Plotline

/-! ## Setups in front of their brackets -/

namespace Instruction

mutual

/-- The instruction with every setup in it moved in front of its bracket. -/
def hoist : Instruction → List Instruction
  | .action a => [.action a]
  | .call c => [.call c]
  | .bracket head setup body none => hoistAll setup ++ [.bracket head [] (hoistAll body) none]
  | .bracket head setup body (some rest) =>
    hoistAll setup ++ [.bracket head [] (hoistAll body) (some (hoistAll rest))]

def hoistAll : List Instruction → List Instruction
  | [] => []
  | i :: is => hoist i ++ hoistAll is

end

end Instruction

def Template.hoist (t : Template) : Template := { t with body := Instruction.hoistAll t.body }

/-- Every number in the template is finite. -/
def Template.Finite (t : Template) : Prop := ∀ v ∈ t.values, v.Finite

instance (t : Template) : Decidable t.Finite := inferInstanceAs (Decidable (∀ v ∈ t.values, _))

namespace Wire

open Instruction (hoist hoistAll)

theorem flatAll_append (is js : List Instruction) :
    flatAll (is ++ js) = flatAll is ++ flatAll js := by
  induction is with
  | nil => rw [List.nil_append, flatAll, List.nil_append]
  | cons i is ih => rw [List.cons_append, flatAll, flatAll, ih, List.append_assoc]

mutual

theorem flatAll_hoist : ∀ i : Instruction, flatAll (hoist i) = flat i
  | .action a => by rw [hoist, flatAll, flatAll, List.append_nil]
  | .call c => by rw [hoist, flatAll, flatAll, List.append_nil]
  | .bracket head setup body none => by
    rw [hoist, flatAll_append, flatAll_hoistAll setup, flatAll, flatAll, List.append_nil, flat,
      flatAll, flatAll_hoistAll body, List.nil_append, flat]
  | .bracket head setup body (some rest) => by
    rw [hoist, flatAll_append, flatAll_hoistAll setup, flatAll, flatAll, List.append_nil, flat,
      flatAll, flatAll_hoistAll body, flatAll_hoistAll rest, List.nil_append, flat]

/-- Hoisting leaves the blocks as they are. -/
theorem flatAll_hoistAll : ∀ is : List Instruction, flatAll (hoistAll is) = flatAll is
  | [] => by rw [hoistAll]
  | i :: is => by rw [hoistAll, flatAll_append, flatAll_hoist i, flatAll_hoistAll is, flatAll]

end

/-! ## Reading a header -/

/-- The values in the slots of a block. -/
def valuesIn (items : List Item) : List Value :=
  items.filterMap fun i =>
    match i.content with
    | .value v => some v
    | .param _ => none

/-- The parameters in the slots of a block. -/
def paramsIn (items : List Item) : List String :=
  items.filterMap fun i =>
    match i.content with
    | .value _ => none
    | .param name => some name

/-- What the tag in the last of the slots says. -/
def hidden? (items : List Item) : Option Bool :=
  match items.getLast? with
  | some ⟨.value (.tag t), _⟩ => some (t.option = "True")
  | _ => none

def header? : Block → Option Header
  | .event kind name => some (.event kind name)
  | .named .function name items => (hidden? items).map (.function name (paramsIn items))
  | .named .process name _ => some (.process name)
  | _ => none

theorem valuesIn_place (next nextTag : Nat) (vs : List Value) :
    valuesIn (place next nextTag vs) = vs := by
  induction vs generalizing next nextTag with
  | nil => rfl
  | cons v vs ih =>
    rw [place]
    split
    · exact congrArg (v :: ·) (ih next (nextTag - 1))
    · exact congrArg (v :: ·) (ih (next + 1) nextTag)

theorem valuesIn_chest (vs : List Value) : valuesIn (chest vs) = vs := valuesIn_place 0 lastSlot vs

theorem paramsIn_append (is js : List Item) : paramsIn (is ++ js) = paramsIn is ++ paramsIn js :=
  List.filterMap_append

theorem paramsIn_zipIdx (params : List String) :
    paramsIn (params.zipIdx.map fun (param, slot) => ⟨.param param, slot⟩) = params := by
  rw [paramsIn, List.filterMap_map]
  calc params.zipIdx.filterMap _
    _ = params.zipIdx.filterMap (some ∘ Prod.fst) := rfl
    _ = params := by rw [List.filterMap_eq_map, List.zipIdx_map_fst]

theorem hidden?_concat (items : List Item) (hidden : Bool) :
    hidden? (items ++ [hiddenTag hidden]) = some hidden := by
  rw [hidden?, List.getLast?_concat]
  cases hidden <;> rfl

theorem header?_flatHeader (header : Header) : header? (flatHeader header) = some header := by
  cases header with
  | event kind name => rfl
  | function name params hidden =>
    rw [flatHeader, header?, hidden?_concat, paramsIn_append, paramsIn_zipIdx]
    exact congrArg (fun ps => some (Header.function name ps hidden)) (List.append_nil params)
  | process name => rfl

/-! ## Reading a body -/

/-- A bracket that is still open: what stands before it, its head, and its body when its else body
is being read. -/
structure Frame where
  before : List Instruction
  head : Head
  body : Option (List Instruction) := none

namespace Frame

/-- Whether the markers around what is being read are those of a loop. -/
def isLoop (f : Frame) : Bool := f.body.isNone && f.head.isLoop

/-- The instructions up to the end of the bracket, where `read` is the body that was read last. -/
def close (f : Frame) (read : List Instruction) : List Instruction :=
  match f.body with
  | none => f.before ++ [.bracket f.head [] read none]
  | some body => f.before ++ [.bracket f.head [] body (some read)]

theorem close_body (before : List Instruction) (head : Head) (read : List Instruction) :
    close { before, head } read = before ++ [.bracket head [] read none] := rfl

theorem close_else (before : List Instruction) (head : Head) (body read : List Instruction) :
    close { before, head, body := some body } read =
      before ++ [.bracket head [] body (some read)] := rfl

end Frame

def callKind? : BlockKind → Option CallKind
  | .callFunction => some .function
  | .startProcess => some .process
  | _ => none

/-- The instructions of a list of blocks, where `read` is what was read of the innermost open
bracket. -/
def readBlocks : List Frame → List Instruction → List Block → Option (List Instruction)
  | [], read, [] => some read
  | frames, read, .step kind name items target subAction inverted :: .marker true loop :: rest =>
    let head : Head :=
      if loop then .loop ⟨name, valuesIn items, subAction, inverted⟩
      else .branch ⟨kind, name, valuesIn items, target, inverted⟩
    readBlocks ({ before := read, head } :: frames) [] rest
  | frames, read, .step kind name items target _ _ :: rest =>
    readBlocks frames (read ++ [.action ⟨kind, name, valuesIn items, target⟩]) rest
  | frames, read, .named kind name items :: rest =>
    match callKind? kind with
    | some call => readBlocks frames (read ++ [.call ⟨call, name, valuesIn items⟩]) rest
    | none => none
  | f :: frames, read, .marker false loop :: .otherwise :: .marker true false :: rest =>
    if f.body.isNone ∧ loop = f.isLoop then
      readBlocks ({ f with body := some read } :: frames) [] rest
    else none
  | f :: frames, read, .marker false loop :: rest =>
    if loop = f.isLoop then readBlocks frames (f.close read) rest else none
  | _, _, _ => none

/-- The template of a document, with every setup in front of its bracket. -/
def Document.template? (d : Document) : Option Template :=
  match d.blocks with
  | [] => none
  | first :: rest => do
    let header ← header? first
    let body ← readBlocks [] [] rest
    return ⟨header, body⟩

/-- Blocks that neither make a head of a step before them nor belong to a bracket before them. -/
def Detached : List Block → Prop
  | .marker true _ :: _ => False
  | .otherwise :: _ => False
  | _ => True

theorem detached_flatHead (head : Head) (rest : List Block) : Detached (flatHead head :: rest) := by
  cases head <;> trivial

theorem detached_close (loop : Bool) (rest : List Block) :
    Detached (.marker false loop :: rest) := trivial

section

variable (frames : List Frame) (read : List Instruction) {loop : Bool} {rest : List Block}

theorem readBlocks_action (a : Action) (hrest : Detached rest) :
    readBlocks frames read
        (.step a.block a.name (chest a.args) a.target none false :: rest) =
      readBlocks frames (read ++ [.action a]) rest := by
  rw [readBlocks, valuesIn_chest]
  rintro loop rest' rfl
  exact hrest

theorem readBlocks_call (c : Call) :
    readBlocks frames read (.named (callBlockKind c.kind) c.name (chest c.args) :: rest) =
      readBlocks frames (read ++ [.call c]) rest := by
  have hkind : callKind? (callBlockKind c.kind) = some c.kind := by cases c.kind <;> rfl
  rw [readBlocks, hkind, valuesIn_chest]

theorem readBlocks_open (head : Head) :
    readBlocks frames read (flatHead head :: .marker true head.isLoop :: rest) =
      readBlocks ({ before := read, head } :: frames) [] rest := by
  cases head with
  | branch c =>
    rw [flatHead, Head.isLoop, readBlocks, valuesIn_chest]
    rfl
  | loop l =>
    rw [flatHead, Head.isLoop, readBlocks, valuesIn_chest]
    rfl

theorem readBlocks_close (f : Frame) (hloop : loop = f.isLoop) (hrest : Detached rest) :
    readBlocks (f :: frames) read (.marker false loop :: rest) =
      readBlocks frames (f.close read) rest := by
  rw [readBlocks, if_pos hloop]
  rintro rest' rfl
  exact hrest

theorem readBlocks_else (f : Frame) (hloop : loop = f.isLoop) (hf : f.body = none) :
    readBlocks (f :: frames) read
        (.marker false loop :: .otherwise :: .marker true false :: rest) =
      readBlocks ({ f with body := some read } :: frames) [] rest := by
  rw [readBlocks, if_pos ⟨by rw [hf]; rfl, hloop⟩]

end

/-! ## Reading the blocks of instructions -/

mutual

theorem detached_flat : ∀ (i : Instruction) (rest : List Block), Detached (flat i ++ rest)
  | .action a, rest => by
    rw [flat]
    trivial
  | .call c, rest => by
    rw [flat]
    trivial
  | .bracket head setup body none, rest => by
    rw [flat, List.append_assoc]
    exact detached_flatAll setup (detached_flatHead head _)
  | .bracket head setup body (some rest'), rest => by
    rw [flat, List.append_assoc]
    exact detached_flatAll setup (detached_flatHead head _)

theorem detached_flatAll : ∀ (is : List Instruction) {rest : List Block}, Detached rest →
    Detached (flatAll is ++ rest)
  | [], rest, hrest => by
    rw [flatAll]
    exact hrest
  | i :: is, rest, _ => by
    rw [flatAll, List.append_assoc]
    exact detached_flat i _

end

mutual

/-- Reading goes over the blocks of an instruction, whatever is open and whatever follows. -/
theorem readBlocks_flat : ∀ (i : Instruction) (frames : List Frame) (read : List Instruction)
    {rest : List Block}, Detached rest →
    readBlocks frames read (flat i ++ rest) = readBlocks frames (read ++ hoist i) rest
  | .action a, frames, read, rest, hrest => by
    rw [flat, hoist]
    exact readBlocks_action frames read a hrest
  | .call c, frames, read, rest, hrest => by
    rw [flat, hoist]
    exact readBlocks_call frames read c
  | .bracket head setup body none, frames, read, rest, hrest => by
    rw [flat, hoist]
    simp only [List.append_assoc, List.cons_append, List.nil_append]
    -- the setup is read like any instructions before the bracket; then the head opens a frame
    rw [readBlocks_flatAll setup _ _ (detached_flatHead head _), readBlocks_open,
      readBlocks_flatAll body _ _ (detached_close _ _), readBlocks_close _ _ _ ?_ hrest]
    · rw [Frame.close_body, List.nil_append, List.append_assoc]
    · rfl
  | .bracket head setup body (some rest'), frames, read, rest, hrest => by
    rw [flat, hoist]
    simp only [List.append_assoc, List.cons_append, List.nil_append]
    -- the frame stays open at the end of the body, because an else block follows
    rw [readBlocks_flatAll setup _ _ (detached_flatHead head _), readBlocks_open,
      readBlocks_flatAll body _ _ (detached_close _ _), readBlocks_else _ _ _ ?_ rfl,
      readBlocks_flatAll rest' _ _ (detached_close _ _), readBlocks_close _ _ _ ?_ hrest]
    · rw [Frame.close_else, List.nil_append, List.nil_append, List.append_assoc]
    · rfl
    · rfl

theorem readBlocks_flatAll : ∀ (is : List Instruction) (frames : List Frame)
    (read : List Instruction) {rest : List Block}, Detached rest →
    readBlocks frames read (flatAll is ++ rest) = readBlocks frames (read ++ hoistAll is) rest
  | [], frames, read, rest, _ => by rw [flatAll, hoistAll, List.nil_append, List.append_nil]
  | i :: is, frames, read, rest, hrest => by
    rw [flatAll, hoistAll, List.append_assoc, readBlocks_flat i _ _ (detached_flatAll is hrest),
      readBlocks_flatAll is _ _ hrest, List.append_assoc]

end

end Wire

open Instruction (hoist hoistAll)
open Wire

theorem template?_of_document {t : Template} {d : Document} (h : t.document = .ok d) :
    d.template? = some t.hoist := by
  have hread : readBlocks [] [] (flatAll t.body) = some (hoistAll t.body) := by
    have hnil : Detached [] := trivial
    have hrun := readBlocks_flatAll t.body [] [] hnil
    rw [List.append_nil, List.nil_append] at hrun
    rw [hrun, readBlocks]
  rw [Document.template?, Template.blocks_of_document h]
  simp only [header?_flatHeader, hread]
  rfl

theorem finite_of_document {t : Template} {d : Document} (hfinite : t.Finite)
    (h : t.document = .ok d) : ∀ b ∈ d.blocks, b.Finite := by
  rw [Template.blocks_of_document h, List.forall_mem_cons]
  exact ⟨finite_flatHeader t.header, finite_flatAll hfinite⟩

/-- The document of a template stays the same when its setups are hoisted. -/
theorem document_eq_of_hoist_eq {t t' : Template} {d d' : Document} (h : t.document = .ok d)
    (h' : t'.document = .ok d') (heq : t.hoist = t'.hoist) : d = d' := by
  refine Document.ext ?_
  obtain ⟨hheader, hbody⟩ : t.header = t'.header ∧ hoistAll t.body = hoistAll t'.body :=
    Template.mk.inj heq
  rw [Template.blocks_of_document h, Template.blocks_of_document h', hheader,
    ← flatAll_hoistAll t.body, hbody, flatAll_hoistAll t'.body]

/-- Templates whose numbers are finite have the same document exactly when they differ in nothing
but where the setups of their brackets stand. The header, the nesting of the brackets and their else
bodies can be read from the document. -/
theorem toJson_eq_iff_hoist_eq {t t' : Template} {d d' : Document} (h : t.document = .ok d)
    (h' : t'.document = .ok d') (hfinite : t.Finite) (hfinite' : t'.Finite) :
    (d.toJson = d'.toJson ↔ t.hoist = t'.hoist) ∧ d.template? = some t.hoist := by
  refine ⟨⟨?_, ?_⟩, template?_of_document h⟩
  · intro hjson
    have hsame : d = d' :=
      Document.toJson_inj (finite_of_document hfinite h) (finite_of_document hfinite' h') hjson
    have hread := template?_of_document h
    rw [hsame, template?_of_document h'] at hread
    exact (Option.some.inj hread).symm
  · intro heq
    rw [document_eq_of_hoist_eq h h' heq]

/-- A loop whose setup holds a branch with a setup of its own and an empty else body. -/
def nestedSetups : Template where
  header := .function "tick" ["who", "count"] true
  body := [.bracket (.loop ⟨"Multiple", [.number ⟨false, 1⟩], none, false⟩)
    [.bracket (.branch ⟨.ifVar, "=", [.var "x" .line, .text "1"], some .killer, true⟩)
      [.action ⟨.setVar, "+=", [.var "x" .line, .number ⟨true, 0⟩], none⟩] [] (some [])]
    [.call (.link "tick~1")] none]

/-- The same instructions one after the other. -/
def chainedSetups : Template where
  header := .function "tick" ["who", "count"] true
  body := [.action ⟨.setVar, "+=", [.var "x" .line, .number ⟨true, 0⟩], none⟩,
    .bracket (.branch ⟨.ifVar, "=", [.var "x" .line, .text "1"], some .killer, true⟩) [] []
      (some []),
    .bracket (.loop ⟨"Multiple", [.number ⟨false, 1⟩], none, false⟩) []
      [.call (.link "tick~1")] none]

theorem toJson_eq_iff_hoist_eq_setups :
    nestedSetups ≠ chainedSetups ∧ nestedSetups.hoist = chainedSetups.hoist ∧
      ∃ d, nestedSetups.document = .ok d ∧ chainedSetups.document = .ok d ∧
        d.template? = some chainedSetups := by
  have hnested : nestedSetups.document =
      .ok ⟨flatHeader nestedSetups.header :: flatAll nestedSetups.body⟩ := rfl
  have hchained : chainedSetups.document =
      .ok ⟨flatHeader nestedSetups.header :: flatAll nestedSetups.body⟩ := rfl
  have hsame := toJson_eq_iff_hoist_eq hnested hchained (by decide) (by decide)
  have hhoist := hsame.1.mp rfl
  exact ⟨by decide, hhoist, _, hnested, hchained, hsame.2.trans (congrArg some hhoist)⟩

end Plotline
