import Plotline.Proofs.Delivery.Answers
import Mathlib.Data.Nat.Find

/-!
# Delivery to a client that is a stream of replies

A session sees of its client only the replies, so a client may be any stream of them: lines,
waits in vain and ends of the connection. `deliver_of_replies` says what a delivery does for every
stream: how many templates are confirmed is the length of the longest first part of the stream
that confirms one template after the other, and the reply behind it decides the rest.

A run is followed from template to template (`run_deliverFrom`); the tape after each step is the
first tape moved on by the messages so far. Numbers of templates go on from batch to batch
(`numberedOn_deliverAll`).
-/

namespace Plotline

/-- A connection on which every line is sent and the replies are prepared. -/
structure Tape where
  replies : Nat → Reply
  read : Nat := 0
  sent : List String := []

namespace Tape

def link : Link (StateM Tape) where
  send line := modifyGet fun t => (none, { t with sent := t.sent ++ [line] })
  receive := modifyGet fun t => (t.replies t.read, { t with read := t.read + 1 })

/-- The reply to the message at the given place of the batch that comes next. -/
def reply (t : Tape) (i : Nat) : Reply := t.replies (t.read + i)

/-- How many templates of a batch of `n` are confirmed: the length of the longest first part of
the replies in which every reply confirms the template at its own place. -/
def confirmed (t : Tape) (n : Nat) : Nat :=
  Nat.findGreatest (fun d => ∀ i < d, (t.reply i).Confirms i) n

/-- The tape after messages that were all answered. -/
def after (t : Tape) (messages : List Message) : Tape :=
  { t with read := t.read + messages.length, sent := t.sent ++ messages.map Message.text }

theorem run_exchange (t : Tape) (m : Message) :
    (link.exchange m).run t = (t.reply 0, t.after [m]) := rfl

theorem after_nil (t : Tape) : t.after [] = t := by
  simp [after]

theorem after_after (t : Tape) (messages messages' : List Message) :
    (t.after messages).after messages' = t.after (messages ++ messages') := by
  simp [after, Nat.add_assoc]

theorem after_take_succ {t : Tape} {messages : List Message} {j : Nat} {m : Message}
    (h : messages[j]? = some m) :
    (t.after (messages.take j)).after [m] = t.after (messages.take (j + 1)) := by
  rw [after_after, List.take_add_one, h]
  rfl

theorem reply_after_take {t : Tape} {messages : List Message} {j : Nat}
    (h : j ≤ messages.length) : (t.after (messages.take j)).reply 0 = t.reply j := by
  simp [after, reply, h]

/-- The replies in front of the one that stops the delivery are as many as are confirmed. -/
theorem confirmed_eq {t : Tape} {n d : Nat} (hd : d ≤ n) (hbefore : ∀ i < d, (t.reply i).Confirms i)
    (hstop : d < n → ¬ (t.reply d).Confirms d) : t.confirmed n = d := by
  rw [confirmed, Nat.findGreatest_eq_iff]
  refine ⟨hd, fun _ => hbefore, fun k hk hkn hall => ?_⟩
  exact hstop (by omega) (hall d hk)

/-- How a batch of `n` templates ends. -/
def verdict (t : Tape) (milliseconds n : Nat) : Except DeliveryError Progress :=
  let d := t.confirmed n
  if d = n ∧ (t.reply n).Completes then .ok ⟨n, n⟩
  else .error ((t.reply d).fault milliseconds ⟨d, n⟩)

theorem verdict_eq_ok_iff {t : Tape} {milliseconds n : Nat} :
    t.verdict milliseconds n = .ok ⟨n, n⟩ ↔ t.confirmed n = n ∧ (t.reply n).Completes := by
  dsimp only [verdict]
  split
  · exact iff_of_true rfl ‹_›
  · exact iff_of_false (by simp) ‹_›

end Tape

/-! ## One batch -/

section

variable {milliseconds : Nat} {p : Progress} {sequence : UInt64} {t : Tape}

theorem run_deliverFrom_nil (h : ¬ p.delivered < p.total) :
    (deliverFrom Tape.link milliseconds p sequence []).run t =
      ((if (t.reply 0).Completes then .ok p else .error ((t.reply 0).fault milliseconds p),
        sequence), t.after [.finish p.total]) := by
  have hrun : (deliverFrom Tape.link milliseconds p sequence []).run t =
      (((finishAnswer milliseconds p (t.reply 0)).map fun _ => p, sequence),
        t.after [.finish p.total]) := rfl
  rw [hrun, finishAnswer_eq h]
  split <;> rfl

theorem run_deliverFrom_cons (h : p.delivered < p.total) (c : TemplateCode)
    (rest : List TemplateCode) :
    (deliverFrom Tape.link milliseconds p sequence (c :: rest)).run t =
      if (t.reply 0).Confirms p.delivered then
        (deliverFrom Tape.link milliseconds { p with delivered := p.delivered + 1 } (sequence + 1)
          rest).run (t.after [.template sequence p.delivered c])
      else ((.error ((t.reply 0).fault milliseconds p), sequence + 1),
        t.after [.template sequence p.delivered c]) := by
  have hexchange : (Tape.link.exchange (.template sequence p.delivered c)).run t =
      (pure (t.reply 0, t.after [.template sequence p.delivered c]) : Id _) := Tape.run_exchange _ _
  rw [deliverFrom, StateT.run_bind, hexchange, pure_bind, templateAnswer_eq h]
  by_cases hconf : (t.reply 0).Confirms p.delivered
  · rw [if_pos hconf, if_pos hconf]
  · rw [if_neg hconf, if_neg hconf]
    rfl

end

section

variable {milliseconds : Nat} {templates : List TemplateCode}

/-- A delivery that has come to the template at place `j`. -/
theorem run_deliverFrom (sequence : UInt64) (milliseconds : Nat) (t : Tape)
    {rest : List TemplateCode} {j : Nat} (hrest : templates.drop j = rest)
    (hj : j ≤ templates.length) (hbefore : ∀ i < j, (t.reply i).Confirms i) :
    (deliverFrom Tape.link milliseconds ⟨j, templates.length⟩ (sequence + .ofNat j) rest).run
        (t.after ((batchMessages sequence templates).take j)) =
      ((t.verdict milliseconds templates.length,
          sequence + .ofNat (min (t.confirmed templates.length + 1) templates.length)),
        t.after ((batchMessages sequence templates).take (t.confirmed templates.length + 1))) := by
  induction rest generalizing j with
  | nil =>
    obtain rfl : j = templates.length := Nat.le_antisymm hj (List.drop_eq_nil_iff.mp hrest)
    have hd : t.confirmed templates.length = templates.length :=
      Tape.confirmed_eq hj hbefore (by omega)
    rw [run_deliverFrom_nil (by simp), Tape.reply_after_take (by simp),
      Tape.after_take_succ (getElem?_batchMessages_length _ _), Tape.verdict, hd]
    simp
  | cons c rest ih =>
    have hlt : j < templates.length := by
      have hlen := congrArg List.length hrest
      simp only [List.length_drop, List.length_cons] at hlen
      omega
    have hc : templates[j]? = some c := by
      rw [← List.head?_drop, hrest]
      rfl
    rw [run_deliverFrom_cons hlt, Tape.reply_after_take (by simp; omega),
      Tape.after_take_succ (getElem?_batchMessages hc)]
    split
    · rename_i hconf
      rw [← add_ofNat_succ]
      refine ih (j := j + 1) ?_ hlt ?_
      · rw [← List.tail_drop, hrest]
        rfl
      · intro i hi
        rcases Nat.lt_succ_iff_lt_or_eq.mp hi with hi | rfl
        · exact hbefore i hi
        · exact hconf
    · rename_i hstop
      have hd : t.confirmed templates.length = j :=
        Tape.confirmed_eq hj hbefore (fun _ => hstop)
      rw [Tape.verdict, hd, if_neg (by omega), Nat.min_eq_left (by omega), add_ofNat_succ]

/-- What an open session does with a batch. -/
theorem run_deliver {s : Session} (hopen : s.isOpen = true) (t : Tape) :
    (s.deliver Tape.link milliseconds templates).run t =
      ((t.verdict milliseconds templates.length,
          ⟨s.next + .ofNat (min (t.confirmed templates.length + 1) templates.length),
            (t.verdict milliseconds templates.length).isOk⟩),
        t.after
          ((batchMessages s.next templates).take (t.confirmed templates.length + 1))) := by
  have hfrom := run_deliverFrom s.next milliseconds t
    (List.drop_zero : templates.drop 0 = templates) (Nat.zero_le _) (by simp)
  rw [List.take_zero, Tape.after_nil, add_ofNat_zero] at hfrom
  rw [Session.deliver, if_pos hopen, StateT.run_bind, hfrom]
  rfl

end

/-- A closed session does nothing. -/
theorem run_deliver_of_closed {s : Session} (hclosed : s.isOpen = false) (milliseconds : Nat)
    (templates : List TemplateCode) (t : Tape) :
    (s.deliver Tape.link milliseconds templates).run t = ((.error .closed, s), t) := by
  rw [Session.deliver, if_neg (by simp [hclosed])]
  rfl

/-! ## Any number of batches -/

/-- Delivers one batch after the other. -/
def Session.deliverAll {m : Type → Type} [Monad m] (s : Session) (link : Link m)
    (milliseconds : Nat) :
    List (List TemplateCode) → m (List (Except DeliveryError Progress) × Session)
  | [] => return ([], s)
  | batch :: batches => do
    let (result, s) ← s.deliver link milliseconds batch
    let (results, s) ← s.deliverAll link milliseconds batches
    return (result :: results, s)

/-- The lines that were sent between two states of a session and its connection are those of
messages that a client can read, and their templates are numbered on. -/
structure NumberedOn (s : Session) (t : Tape) (s' : Session) (t' : Tape) (messages : List Message) :
    Prop where
  sent : t'.sent = t.sent ++ messages.map Message.text
  fits : ∀ m ∈ messages, m.Fits
  numbers : ∃ k, messages.filterMap Message.sequence? = consecutive s.next k ∧
    s'.next = s.next + .ofNat k

namespace NumberedOn

variable {s s' s'' : Session} {t t' t'' : Tape} {messages messages' : List Message}

theorem refl (s : Session) (t : Tape) : NumberedOn s t s t [] where
  sent := by simp
  fits := by simp
  numbers := ⟨0, rfl, (add_ofNat_zero _).symm⟩

theorem trans (h : NumberedOn s t s' t' messages) (h' : NumberedOn s' t' s'' t'' messages') :
    NumberedOn s t s'' t'' (messages ++ messages') where
  sent := by rw [h'.sent, h.sent, List.map_append, List.append_assoc]
  fits := List.forall_mem_append.mpr ⟨h.fits, h'.fits⟩
  numbers := by
    obtain ⟨k, hnumbers, hnext⟩ := h.numbers
    obtain ⟨k', hnumbers', hnext'⟩ := h'.numbers
    refine ⟨k + k', ?_, ?_⟩
    · rw [List.filterMap_append, hnumbers, hnumbers', hnext, consecutive_append]
    · rw [hnext', hnext, add_ofNat_add]

/-- The new lines. -/
theorem drop_sent (h : NumberedOn s t s' t' messages) :
    t'.sent.drop t.sent.length = messages.map Message.text := by
  rw [h.sent, List.drop_left]

/-- A client reads each of them. -/
theorem isSome_of_mem_drop_sent (h : NumberedOn s t s' t' messages) {line : String}
    (hline : line ∈ t'.sent.drop t.sent.length) : (Message.ofText? line).isSome := by
  have hmem := List.mem_map_of_mem (f := Message.ofText?) hline
  rw [h.drop_sent, Message.map_ofText?_map_text h.fits] at hmem
  obtain ⟨m, -, heq⟩ := List.mem_map.mp hmem
  rw [← heq]
  rfl

/-- The numbers of the templates that it finds in them follow each other. -/
theorem numbers_drop_sent (h : NumberedOn s t s' t' messages) :
    Message.numbers (t'.sent.drop t.sent.length) =
      consecutive s.next (Message.numbers (t'.sent.drop t.sent.length)).length := by
  obtain ⟨k, hnumbers, -⟩ := h.numbers
  rw [h.drop_sent, Message.numbers_map_text h.fits, hnumbers, length_consecutive]

end NumberedOn

/-- The templates of one batch are numbered on. -/
theorem numberedOn_deliver (s : Session) (milliseconds : Nat) {templates : List TemplateCode}
    (h : templates.length < 2 ^ 64) (t : Tape) :
    let run := (s.deliver Tape.link milliseconds templates).run t
    ∃ messages, NumberedOn s t run.1.2 run.2 messages := by
  by_cases hopen : s.isOpen = true
  · rw [run_deliver hopen]
    exact ⟨_, rfl, fun m hm => fits_of_mem_batchMessages h (List.mem_of_mem_take hm), _,
      sequences_take _ _ _, rfl⟩
  · rw [run_deliver_of_closed (by simpa using hopen)]
    exact ⟨[], .refl s t⟩

/-- The templates of all batches are numbered on. -/
theorem numberedOn_deliverAll (s : Session) (milliseconds : Nat)
    {batches : List (List TemplateCode)} (h : ∀ batch ∈ batches, batch.length < 2 ^ 64)
    (t : Tape) :
    let run := (s.deliverAll Tape.link milliseconds batches).run t
    ∃ messages, NumberedOn s t run.1.2 run.2 messages := by
  induction batches generalizing s t with
  | nil => exact ⟨[], .refl s t⟩
  | cons batch batches ih =>
    obtain ⟨hbatch, hrest⟩ := List.forall_mem_cons.mp h
    obtain ⟨messages, hfirst⟩ := numberedOn_deliver s milliseconds hbatch t
    obtain ⟨messages', hlast⟩ := ih ((s.deliver Tape.link milliseconds batch).run t).1.2 hrest
      ((s.deliver Tape.link milliseconds batch).run t).2
    exact ⟨messages ++ messages', hfirst.trans hlast⟩

/-- **Delivery by replies.** Let an open session deliver `n` templates, and let the first `d`
replies, but not the first `d + 1`, each confirm the template at their place. Then

* the first `d + 1` messages of the batch are sent, and a client reads them from the lines:
  templates numbered on from the session's number and, only when all are confirmed, the end of the
  batch;
* the delivery succeeds if and only if all templates are confirmed and the next reply completes the
  batch;
* otherwise its error is the fault of reply number `d` with the progress `d` of `n`, and the session
  is closed: no later delivery sends anything or changes its number;
* over any number of batches the numbers that a client finds in the lines follow each other, without
  a gap, and without a repetition as long as they fit into 64 bits. -/
theorem deliver_of_replies {s : Session} (hopen : s.isOpen = true) (milliseconds : Nat)
    (templates : List TemplateCode) (t : Tape) :
    let n := templates.length
    let d := t.confirmed n
    let run := (s.deliver Tape.link milliseconds templates).run t
    let messages := (batchMessages s.next templates).take (d + 1)
    run.2.sent = t.sent ++ messages.map Message.text ∧
      (n < 2 ^ 64 → (run.2.sent.drop t.sent.length).map Message.ofText? = messages.map some) ∧
      (run.1.1 = .ok ⟨n, n⟩ ↔ d = n ∧ (t.reply n).Completes) ∧
      (¬ (d = n ∧ (t.reply n).Completes) →
        run.1.1 = .error ((t.reply d).fault milliseconds ⟨d, n⟩) ∧
          ((t.reply d).fault milliseconds ⟨d, n⟩).progress? = some ⟨d, n⟩ ∧
          run.1.2.isOpen = false ∧
          ∀ milliseconds' templates' t',
            (run.1.2.deliver Tape.link milliseconds' templates').run t' =
              ((.error .closed, run.1.2), t')) ∧
      ∀ batches : List (List TemplateCode), (∀ batch ∈ batches, batch.length < 2 ^ 64) →
        let sent := ((s.deliverAll Tape.link milliseconds batches).run t).2.sent
        let numbers := Message.numbers (sent.drop t.sent.length)
        t.sent <+: sent ∧ (∀ line ∈ sent.drop t.sent.length, (Message.ofText? line).isSome) ∧
          numbers = consecutive s.next numbers.length ∧
          (s.sequence + numbers.length ≤ 2 ^ 64 →
            numbers.map UInt64.toNat = List.range' s.sequence numbers.length) := by
  intro n d run messages
  have hrun : run = _ := run_deliver hopen t
  have hsent : run.2.sent = t.sent ++ messages.map Message.text := by
    rw [hrun]
    rfl
  refine ⟨hsent, fun hn => ?_, ?_, fun hfails => ?_, fun batches hbatches => ?_⟩
  · rw [hsent, List.drop_left]
    exact Message.map_ofText?_map_text fun m hm =>
      fits_of_mem_batchMessages hn (List.mem_of_mem_take hm)
  · rw [hrun]
    exact Tape.verdict_eq_ok_iff
  · have hverdict : t.verdict milliseconds n = .error ((t.reply d).fault milliseconds ⟨d, n⟩) :=
      if_neg hfails
    have hclosed : run.1.2.isOpen = false := by
      rw [hrun]
      dsimp only
      rw [hverdict]
      rfl
    refine ⟨?_, Reply.progress?_fault _ _ _, hclosed, run_deliver_of_closed hclosed⟩
    rw [hrun]
    exact hverdict
  · obtain ⟨all, hall⟩ := numberedOn_deliverAll s milliseconds hbatches t
    intro sent numbers
    have hnumbers : numbers = consecutive s.next numbers.length := hall.numbers_drop_sent
    refine ⟨⟨_, hall.sent.symm⟩, fun line hline => hall.isSome_of_mem_drop_sent hline, hnumbers,
      fun hfits => ?_⟩
    rw [hnumbers, length_consecutive]
    exact map_toNat_consecutive hfits

namespace Sample

/-- Two templates. -/
def codes : List TemplateCode := [⟨"event.Join", "H4sI0"⟩, ⟨"event.Join~1", "H4sI1"⟩]

/-- The first template is placed, the second one is refused. -/
def refusal : Tape where
  replies
    | 0 => .line "\x7b\"status\":\"success\",\"index\":0\x7d"
    | _ => .line "\x7b\"status\":\"error\",\"index\":1,\"error\":\"plot is full\"\x7d"

end Sample

/-- The second line asks for the template that is refused, and nothing is sent behind it. -/
theorem deliver_refusal_sample :
    let run := ((⟨7, true⟩ : Session).deliver Tape.link 5000 Sample.codes).run Sample.refusal
    run.1.1 = .error (.rejected 1 "plot is full" ⟨1, 2⟩) ∧ run.1.2.isOpen = false ∧
      run.2.sent =
        ["\x7b\"data\":\x7b\"code\":\"H4sI0\",\"name\":\"event.Join\",\"version\":1\x7d," ++
            "\"index\":0,\"seq\":7,\"source\":\"kindling\",\"type\":\"template\"\x7d",
          "\x7b\"data\":\x7b\"code\":\"H4sI1\",\"name\":\"event.Join~1\",\"version\":1\x7d," ++
            "\"index\":1,\"seq\":8,\"source\":\"kindling\",\"type\":\"template\"\x7d"] ∧
      run.2.sent.map Message.ofText? =
        [some (.template 7 0 ⟨"event.Join", "H4sI0"⟩),
          some (.template 8 1 ⟨"event.Join~1", "H4sI1"⟩)] := by
  intro run
  obtain ⟨hsent, hread, -, hfails, -⟩ :=
    deliver_of_replies (s := ⟨7, true⟩) rfl 5000 Sample.codes Sample.refusal
  have hd : Sample.refusal.confirmed Sample.codes.length = 1 := by decide
  rw [hd] at hsent hread hfails
  obtain ⟨herror, -, hclosed, -⟩ := hfails (by decide)
  refine ⟨?_, hclosed, ?_, (hread (by decide)).trans rfl⟩
  · rw [show run.1.1 = _ from herror]
    decide
  · exact hsent.trans (by decide +kernel)

end Plotline
