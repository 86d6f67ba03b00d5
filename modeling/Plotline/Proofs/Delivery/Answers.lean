import Plotline.Proofs.Delivery.Lines

/-!
# Batches and the answers to them

A batch is a list of messages: one for every template, and one at the end (`batchMessages`). A reply
confirms a template, completes a batch, or stops the delivery, and then `Reply.fault` says with
which error. `templateAnswer_eq` and `finishAnswer_eq` read the two checks of a session in these
words; what a session makes of a reply is only used through them.
-/

namespace Plotline

/-! ## Messages of a batch -/

/-- The messages of a batch whose first template has the given number. -/
def batchMessages (sequence : UInt64) (templates : List TemplateCode) : List Message :=
  templates.mapIdx (fun i t => .template (sequence + .ofNat i) i t) ++ [.finish templates.length]

@[simp] theorem length_batchMessages (sequence : UInt64) (templates : List TemplateCode) :
    (batchMessages sequence templates).length = templates.length + 1 := by
  simp [batchMessages]

theorem getElem?_batchMessages {sequence : UInt64} {i : Nat} {templates : List TemplateCode}
    {t : TemplateCode} (h : templates[i]? = some t) :
    (batchMessages sequence templates)[i]? = some (.template (sequence + .ofNat i) i t) := by
  obtain ⟨hi, -⟩ := List.getElem?_eq_some_iff.mp h
  rw [batchMessages, List.getElem?_append_left (by simpa using hi), List.getElem?_mapIdx, h]
  rfl

theorem getElem?_batchMessages_length (sequence : UInt64) (templates : List TemplateCode) :
    (batchMessages sequence templates)[templates.length]? = some (.finish templates.length) := by
  rw [batchMessages, List.getElem?_append_right (by simp)]
  simp

/-- In a batch that can be counted in 64 bits all messages fit. -/
theorem fits_of_mem_batchMessages {sequence : UInt64} {templates : List TemplateCode}
    (h : templates.length < 2 ^ 64) {m : Message} (hm : m ∈ batchMessages sequence templates) :
    m.Fits := by
  rw [batchMessages, List.mem_append, List.mem_mapIdx, List.mem_singleton] at hm
  obtain ⟨i, hi, rfl⟩ | rfl := hm
  · exact Nat.lt_trans hi h
  · exact h

/-- The first templates of a batch are numbered in a row. -/
theorem sequences_take (sequence : UInt64) (k : Nat) (templates : List TemplateCode) :
    ((batchMessages sequence templates).take k).filterMap Message.sequence? =
      consecutive sequence (min k templates.length) := by
  induction k with
  | zero => simp [consecutive]
  | succ k ih =>
    rw [List.take_add_one, List.filterMap_append, ih]
    rcases Nat.lt_trichotomy k templates.length with hk | rfl | hk
    · rw [getElem?_batchMessages (List.getElem?_eq_getElem hk), Nat.min_eq_left (by omega),
        Nat.min_eq_left (by omega), consecutive_succ]
      rfl
    · rw [getElem?_batchMessages_length, Nat.min_eq_right (by omega), Nat.min_eq_right (by omega)]
      simp [Message.sequence?]
    · rw [List.getElem?_eq_none (by simp; omega), Nat.min_eq_right (by omega),
        Nat.min_eq_right (by omega)]
      simp

/-! ## Replies -/

/-- What a session waits for. -/
def Progress.awaited (p : Progress) : Awaited :=
  if p.delivered < p.total then .template p.delivered else .finish

namespace Reply

/-- The acknowledgment that a reply spells. -/
def ack? : Reply → Option Ack
  | .line text => Ack.ofText? text
  | .timeout | .lost _ => none

/-- The reply says that the template with the given index was placed. -/
def Confirms (r : Reply) (index : Nat) : Prop :=
  ∃ a ∈ r.ack?, a.status = "success" ∧ a.index = some index

instance (r : Reply) (index : Nat) : Decidable (r.Confirms index) :=
  inferInstanceAs (Decidable (∃ a ∈ r.ack?, _))

/-- The reply says that the batch is complete. -/
def Completes (r : Reply) : Prop := ∃ a ∈ r.ack?, a.status = "complete"

instance (r : Reply) : Decidable r.Completes := inferInstanceAs (Decidable (∃ a ∈ r.ack?, _))

theorem Confirms.isSome_ack? {r : Reply} {index : Nat} (h : r.Confirms index) :
    r.ack?.isSome = true := by
  obtain ⟨a, ha, -⟩ := h
  exact Option.isSome_of_mem ha

theorem Completes.isSome_ack? {r : Reply} (h : r.Completes) : r.ack?.isSome = true := by
  obtain ⟨a, ha, -⟩ := h
  exact Option.isSome_of_mem ha

/-- The error of a delivery that stops at a reply. Only templates can be refused. -/
def fault (milliseconds : Nat) (p : Progress) : Reply → DeliveryError
  | .timeout => .timeout p.awaited milliseconds p
  | .lost reason => .lost reason p
  | .line text =>
    match Ack.ofText? text with
    | some a =>
      if p.delivered < p.total ∧ a.status = "error" ∧ a.index = some p.delivered then
        .rejected p.delivered (a.error.getD "no reason given") p
      else .unexpected text p
    | none => .unexpected text p

theorem progress?_fault (milliseconds : Nat) (p : Progress) (r : Reply) :
    (r.fault milliseconds p).progress? = some p := by
  cases r with
  | timeout => rfl
  | lost reason => rfl
  | line text =>
    rw [fault]
    split
    · split <;> rfl
    · rfl

end Reply

/-! ## The checks of a session -/

section

variable {milliseconds : Nat} {p : Progress} {r : Reply}

/-- A template is confirmed, or the delivery stops. -/
theorem templateAnswer_eq (h : p.delivered < p.total) :
    templateAnswer milliseconds p r =
      if r.Confirms p.delivered then .ok () else .error (r.fault milliseconds p) := by
  cases r with
  | timeout => simp [templateAnswer, Reply.Confirms, Reply.ack?, Reply.fault, Progress.awaited, h]
  | lost reason => simp [templateAnswer, Reply.Confirms, Reply.ack?, Reply.fault]
  | line text =>
    cases hack : Ack.ofText? text with
    | none => simp [templateAnswer, Reply.Confirms, Reply.ack?, Reply.fault, hack]
    | some a =>
      by_cases hindex : a.index = some p.delivered
      · by_cases hstatus : a.status = "success"
        · simp [templateAnswer, Reply.Confirms, Reply.ack?, hack, hindex, hstatus]
        · simp only [templateAnswer, Reply.Confirms, Reply.ack?, Reply.fault, hack, hindex, hstatus,
            h, true_and, and_true, if_false, Option.mem_def, Option.some.injEq, exists_eq_left']
          split <;> rfl
      · simp [templateAnswer, Reply.Confirms, Reply.ack?, Reply.fault, hack, hindex]

/-- A batch is complete, or the delivery stops. -/
theorem finishAnswer_eq (h : ¬ p.delivered < p.total) :
    finishAnswer milliseconds p r =
      if r.Completes then .ok () else .error (r.fault milliseconds p) := by
  cases r with
  | timeout => simp [finishAnswer, Reply.Completes, Reply.ack?, Reply.fault, Progress.awaited, h]
  | lost reason => simp [finishAnswer, Reply.Completes, Reply.ack?, Reply.fault]
  | line text =>
    cases hack : Ack.ofText? text with
    | none => simp [finishAnswer, Reply.Completes, Reply.ack?, Reply.fault, hack]
    | some a => simp [finishAnswer, Reply.Completes, Reply.ack?, Reply.fault, hack, h]

end

end Plotline
