import Plotline.Proofs.Delivery.Parties
import Plotline.Proofs.Delivery.Replies

/-!
# The session and the client agree

Acknowledgments do not name the message that they answer, only an index that starts anew with every
batch. That the session takes the right ones rests on counting: while a batch is delivered, the
session has taken exactly one line for each message before the one that it waits for, and the client
has answered no message behind that one. `delivery_agrees` concludes that a template is sent only
after the client's own confirmation of the one before it was taken, that no message is sent twice,
and that the reported progress counts the confirmations that were taken. One more template may be
confirmed: the session may have given up while the answer was on its way (`confirmed_on_the_way`).

`Parties.Sound` is the invariant: how things stand between deliveries, before a message is
sent and while its answer is awaited. The moves of the client keep it because they only add to the
lines that the session has not taken yet; the moves of the session go from one stage of the batch to
the next (`Parties.Sound.reply`).
-/

namespace Plotline

/-! ## What it means to agree -/

/-- The client has answered a message by a line that confirms the template at the given index. -/
def Connection.Confirmed (wire : Connection) (message index : Nat) : Prop :=
  ∃ line, (message, line) ∈ wire.toSession.lines ∧ (Client.lineReply line).Confirms index

/-- The session has taken such an answer. -/
def Connection.Settled (wire : Connection) (message index : Nat) : Prop :=
  ∃ line, (message, line) ∈ wire.toSession.read ∧ (Client.lineReply line).Confirms index

/-- The lines are the first messages of each batch, one batch behind the other and every message
once. -/
def Sends (batches : List Batch) (lines : List String) : Prop :=
  ∃ parts : List (List String), List.Forall₂ (fun b part =>
      part <+: (batchMessages b.sequence b.templates).map Message.text) batches parts ∧
    lines = parts.flatten

/-- The batches that were handed to the session, with the one that is being delivered. -/
def Parties.batches (w : Parties) : List Batch :=
  w.returned.map Return.batch ++ (w.call.map Prod.fst).toList

/-- No line of a template stands twice among the lines that the client has received, before as many
lines have passed as there are numbers. -/
def Connection.Distinct (wire : Connection) : Prop :=
  ∀ (i j : Nat) (sequence : UInt64) (index : Nat) (code : TemplateCode),
    wire.toClient.read[i]? = some (Message.template sequence index code).text →
    wire.toClient.read[j]? = some (Message.template sequence index code).text →
    i < j → i + 2 ^ 64 ≤ j

/-- The template at place `i` of the batch was sent. Its message has the number `first + i`. -/
def Batch.Sent (b : Batch) (wire : Connection) (i : Nat) : Prop :=
  i < b.templates.length ∧ b.first + i < wire.toClient.lines.length

/-- What was sent since the batch began are its first messages, and a template was sent only after
the client's confirmation of the one before it was taken. -/
structure Batch.InOrder (b : Batch) (wire : Connection) : Prop where
  lines : wire.toClient.lines.drop b.first <+:
    (batchMessages b.sequence b.templates).map Message.text
  settled : ∀ i, b.Sent wire (i + 1) → wire.Settled (b.first + i) i

/-- The delivery ended without an answer: the session waited too long or lost the connection. -/
def DeliveryError.GivesUp : DeliveryError → Prop
  | .timeout .. | .lost .. => True
  | .refused .. | .rejected .. | .unexpected .. | .closed => False

/-- The delivery has ended so. -/
def Return.GaveUp (r : Return) : Prop := ∃ e, r.result = .error e ∧ e.GivesUp

/-- The progress of a delivery that has ended counts the templates whose confirmation was taken. The
client has confirmed no other template, except for the next one when the session gave up on its
answer. No template behind that one was sent. -/
structure Return.Exact (r : Return) (p : Progress) : Prop where
  total : p.total = r.batch.templates.length
  delivered_le : p.delivered ≤ p.total
  settled : ∀ i < p.total, r.wire.Settled (r.batch.first + i) i ↔ i < p.delivered
  confirmed : ∀ i < p.total, r.wire.Confirmed (r.batch.first + i) i →
    i < p.delivered ∨ i = p.delivered ∧ r.GaveUp
  sent : ∀ i, r.batch.Sent r.wire i → i ≤ p.delivered

/-! ## Counting messages and answers -/

/-- The client has answered messages that it has received, each at most once. -/
structure Connection.Proper (wire : Connection) : Prop where
  taken_le : wire.toClient.taken ≤ wire.toClient.lines.length
  received : ∀ a ∈ wire.toSession.lines, a.1 < wire.toClient.taken
  once : (wire.toSession.lines.map Prod.fst).Nodup

/-- The session has taken the answers to the first messages, in their order. -/
structure Connection.Answered (wire : Connection) (count : Nat) : Prop where
  taken : wire.toSession.taken = count
  numbers : wire.toSession.read.map Prod.fst = List.range count

/-- The templates among some messages are numbered in a row, and `sequence` is the next number. -/
def NumberedTo (messages : List Message) (sequence : UInt64) : Prop :=
  ∃ k, messages.filterMap Message.sequence? = consecutive 0 k ∧ sequence = 0 + .ofNat k

/-- The lines sent so far are those of messages that are numbered in a row. -/
def Connection.Numbered (wire : Connection) (sequence : UInt64) : Prop :=
  ∃ messages : List Message, wire.toClient.lines = messages.map Message.text ∧
    NumberedTo messages sequence

/-- All that was sent before the batch is numbered, and the first `k` messages of the batch came
behind it. -/
def Batch.Begun (b : Batch) (wire : Connection) (k : Nat) : Prop :=
  ∃ before : List Message, before.length = b.first ∧ NumberedTo before b.sequence ∧
    wire.toClient.lines =
      (before ++ (batchMessages b.sequence b.templates).take k).map Message.text

section

variable {wire wire' : Connection} {b : Batch} {count k : Nat}

theorem Connection.Answered.taken_le (h : wire.Answered count) :
    wire.toSession.taken ≤ wire.toSession.lines.length := by
  have hlength := congrArg List.length h.numbers
  rw [List.length_map, Channel.read, List.length_take, List.length_range, ← h.taken] at hlength
  omega

theorem Connection.Answered.drop_numbers (h : wire.Answered count) :
    wire.toSession.lines.map Prod.fst =
      List.range count ++ (wire.toSession.lines.drop count).map Prod.fst := by
  rw [← h.numbers, Channel.read, h.taken, ← List.map_append, List.take_append_drop]

/-- When at most one message is not answered yet, the next line answers it. -/
theorem Connection.Answered.next_eq (h : wire.Answered count) (hproper : wire.Proper)
    (hsent : wire.toClient.lines.length ≤ count + 1) {a : Nat × List UInt8}
    (ha : wire.toSession.next? = some a) : a.1 = count := by
  have hdrop : a ∈ wire.toSession.lines.drop count := by
    rw [Channel.next?, h.taken] at ha
    refine List.mem_of_getElem? (i := 0) ?_
    rwa [List.getElem?_drop, Nat.add_zero]
  have hlt := hproper.received a (List.mem_of_mem_drop hdrop)
  have hle := hproper.taken_le
  have hnodup := hproper.once
  rw [h.drop_numbers, List.nodup_append'] at hnodup
  have hnotMem : a.1 ∉ List.range count := fun hmem =>
    hnodup.2.2 hmem (List.mem_map_of_mem hdrop)
  rw [List.mem_range] at hnotMem
  omega

/-- The answer to a later message was not taken. -/
theorem Connection.Answered.not_settled (h : wire.Answered count) (index : Nat) :
    ¬ wire.Settled count index := by
  rintro ⟨line, hline, -⟩
  have hmem : count ∈ wire.toSession.read.map Prod.fst := List.mem_map_of_mem hline
  rw [h.numbers, List.mem_range] at hmem
  exact Nat.lt_irrefl count hmem

theorem Connection.Settled.confirmed {message index : Nat} (h : wire.Settled message index) :
    wire.Confirmed message index := by
  obtain ⟨line, hline, hconf⟩ := h
  exact ⟨line, List.mem_of_mem_take hline, hconf⟩

theorem Connection.Answered.advance (h : wire.Answered count) {a : Nat × List UInt8}
    (ha : wire.toSession.next? = some a) (hnumber : a.1 = count) :
    Connection.Answered { wire with toSession := wire.toSession.advance } (count + 1) where
  taken := congrArg (· + 1) h.taken
  numbers := by
    rw [Channel.read_advance ha, List.map_append, h.numbers, List.range_succ, ← hnumber]
    rfl

theorem Batch.Begun.length_eq (h : b.Begun wire k) (hk : k ≤ b.templates.length + 1) :
    wire.toClient.lines.length = b.first + k := by
  obtain ⟨before, hfirst, -, hlines⟩ := h
  rw [hlines, List.length_map, List.length_append, List.length_take, length_batchMessages, hfirst,
    Nat.min_eq_left hk]

theorem NumberedTo.nil : NumberedTo [] 0 := ⟨0, rfl, rfl⟩

theorem NumberedTo.append {before messages : List Message} {sequence : UInt64}
    (h : NumberedTo before sequence)
    (hmessages : messages.filterMap Message.sequence? = consecutive sequence k) :
    NumberedTo (before ++ messages) (sequence + .ofNat k) := by
  obtain ⟨k₀, hbefore, rfl⟩ := h
  refine ⟨k₀ + k, ?_, ?_⟩
  · rw [List.filterMap_append, hbefore, hmessages, consecutive_append]
  · rw [add_ofNat_add]

theorem Batch.Begun.numbered (h : b.Begun wire k) :
    wire.Numbered (b.sequence + .ofNat (min k b.templates.length)) := by
  obtain ⟨before, -, hbefore, hlines⟩ := h
  exact ⟨_, hlines, hbefore.append (sequences_take _ _ _)⟩

theorem Batch.Begun.send (h : b.Begun wire k) {message : Message}
    (hmessage : (batchMessages b.sequence b.templates)[k]? = some message) :
    b.Begun { wire with toClient := wire.toClient.put message.text } (k + 1) := by
  obtain ⟨before, hfirst, hbefore, hlines⟩ := h
  refine ⟨before, hfirst, hbefore, ?_⟩
  rw [List.take_add_one, hmessage, ← List.append_assoc, List.map_append, ← hlines]
  rfl

/-- How many templates stand in front of the message at place `i`. -/
def templatesBefore (messages : List Message) (i : Nat) : Nat :=
  ((messages.take i).filterMap Message.sequence?).length

theorem templatesBefore_le (messages : List Message) {i j : Nat} (h : i ≤ j) :
    templatesBefore messages j ≤ templatesBefore messages i + (j - i) := by
  obtain ⟨d, rfl⟩ := Nat.exists_eq_add_of_le h
  have hlength := List.length_filterMap_le Message.sequence? ((messages.drop i).take d)
  have htake := List.length_take_le d (messages.drop i)
  rw [templatesBefore, templatesBefore, List.take_add, List.filterMap_append, List.length_append]
  omega

theorem templatesBefore_mono (messages : List Message) {i j : Nat} (h : i ≤ j) :
    templatesBefore messages i ≤ templatesBefore messages j :=
  ((List.take_prefix_take_left h).sublist.filterMap _).length_le

section

variable {messages : List Message} {i j : Nat} {m m' : Message} {q : UInt64}

theorem templatesBefore_succ (h : messages[i]? = some m) (hq : m.sequence? = some q) :
    templatesBefore messages (i + 1) = templatesBefore messages i + 1 := by
  simp [templatesBefore, List.take_add_one, h, hq]

/-- A template is found among the numbers behind the templates in front of it. -/
theorem getElem?_templatesBefore (h : messages[i]? = some m) (hq : m.sequence? = some q) :
    (messages.filterMap Message.sequence?)[templatesBefore messages i]? = some q := by
  have hsplit : messages.filterMap Message.sequence? =
      (messages.take (i + 1)).filterMap Message.sequence? ++
        (messages.drop (i + 1)).filterMap Message.sequence? := by
    rw [← List.filterMap_append, List.take_append_drop]
  rw [hsplit, List.getElem?_append_left (by
    have hsucc := templatesBefore_succ h hq
    rw [templatesBefore] at hsucc
    omega)]
  simp [templatesBefore, List.take_add_one, h, hq]

/-- Of two templates with one number, the second comes after as many messages as there are
numbers. -/
theorem NumberedTo.apart {sequence : UInt64} (h : NumberedTo messages sequence) (hlt : i < j)
    (hi : messages[i]? = some m) (hm : m.sequence? = some q)
    (hj : messages[j]? = some m') (hm' : m'.sequence? = some q) : i + 2 ^ 64 ≤ j := by
  obtain ⟨k, hnumbers, -⟩ := h
  have hqi := getElem?_templatesBefore hi hm
  have hqj := getElem?_templatesBefore hj hm'
  rw [hnumbers] at hqi hqj
  have heq := congrArg UInt64.toNat
    ((getElem?_consecutive hqi).symm.trans (getElem?_consecutive hqj))
  rw [UInt64.zero_add, UInt64.zero_add, UInt64.toNat_ofNat', UInt64.toNat_ofNat'] at heq
  have hsucc := templatesBefore_succ hi hm
  have hmono := templatesBefore_mono messages (i := i + 1) hlt
  have hle := templatesBefore_le messages (Nat.le_of_lt hlt)
  omega

end

theorem Connection.Numbered.distinct {sequence : UInt64} (h : wire.Numbered sequence) :
    wire.Distinct := by
  obtain ⟨messages, hlines, hnumbers⟩ := h
  have hmessage : ∀ (i : Nat) (q : UInt64) (index : Nat) (code : TemplateCode),
      wire.toClient.read[i]? = some (Message.template q index code).text →
      ∃ m, messages[i]? = some m ∧ m.sequence? = some q := by
    intro i q index code hi
    obtain ⟨hlt, -⟩ := List.getElem?_eq_some_iff.mp hi
    rw [Channel.read, List.getElem?_take_of_lt (by simp [Channel.read] at hlt; omega), hlines,
      List.getElem?_map] at hi
    obtain ⟨m, hm, htext⟩ := Option.map_eq_some_iff.mp hi
    refine ⟨m, hm, ?_⟩
    cases m with
    | template q' index' code' => exact congrArg some (Message.sequence_eq_of_text_eq htext)
    | finish count => exact absurd htext.symm (Message.text_template_ne_finish _ _ _ _)
  intro i j q index code hi hj hlt
  obtain ⟨m, hmi, hm⟩ := hmessage i q index code hi
  obtain ⟨m', hmj, hm'⟩ := hmessage j q index code hj
  exact hnumbers.apart hlt hmi hm hmj hm'

end

/-! ## The invariant -/

/-- Everything that was sent is numbered and answered, and all answers were taken. -/
structure Connection.Quiet (wire : Connection) (sequence : UInt64) : Prop where
  numbered : wire.Numbered sequence
  answered : wire.Answered wire.toClient.lines.length

/-- Where a session stands that delivers a batch: before the message at place `j`, or waiting for
the answer to it. -/
inductive Busy (milliseconds : Nat) (b : Batch) (wire : Connection) :
    Dialogue (Except DeliveryError Progress × Session) → Prop
  | sending {j : Nat} (hj : j ≤ b.templates.length) (begun : b.Begun wire j)
      (answered : wire.Answered (b.first + j)) (settled : ∀ i < j, wire.Settled (b.first + i) i) :
      Busy milliseconds b wire (stage milliseconds b.sequence b.templates j)
  | waiting {j : Nat} (hj : j ≤ b.templates.length) (begun : b.Begun wire (j + 1))
      (answered : wire.Answered (b.first + j)) (settled : ∀ i < j, wire.Settled (b.first + i) i) :
      Busy milliseconds b wire (.receive (react milliseconds b.sequence b.templates j))

/-- What was sent before the batch that is being delivered. -/
def Parties.before (w : Parties) : List String :=
  match w.call with
  | none => w.wire.toClient.lines
  | some (b, _) => w.wire.toClient.lines.take b.first

structure Parties.Sound (milliseconds : Nat) (w : Parties) : Prop where
  proper : w.wire.Proper
  before : Sends (w.returned.map Return.batch) w.before
  numbered : ∃ k, w.wire.Numbered k
  idle : w.call = none → w.session.isOpen = true → w.wire.Quiet w.session.next
  busy : ∀ b rest, w.call = some (b, rest) → Busy milliseconds b w.wire rest
  past : ∀ r ∈ w.returned, r.batch.InOrder r.wire ∧ ∀ p, r.progress? = some p → r.Exact p

section

variable {milliseconds : Nat} {wire : Connection} {b : Batch} {j k : Nat}

theorem Batch.Begun.inOrder (h : b.Begun wire k) (hj : j ≤ b.templates.length) (hk : k ≤ j + 1)
    (hsettled : ∀ i < j, wire.Settled (b.first + i) i) : b.InOrder wire where
  lines := by
    obtain ⟨before, hfirst, -, hlines⟩ := h
    rw [hlines, List.map_append, List.drop_left' (by simpa using hfirst)]
    exact (List.take_prefix _ _).map _
  settled := by
    rintro i ⟨-, hi⟩
    rw [h.length_eq (by omega)] at hi
    exact hsettled i (by omega)

/-- A delivery that stops at place `j` has come as far as it says. -/
theorem Batch.Begun.exact (h : b.Begun wire k) (hj : j ≤ b.templates.length) (hk : k ≤ j + 1)
    (hproper : wire.Proper) (hsettled : ∀ i < j, wire.Settled (b.first + i) i)
    {result : Except DeliveryError Progress}
    (hlast : j < b.templates.length → ¬ wire.Settled (b.first + j) j ∧
      (wire.Confirmed (b.first + j) j → Return.GaveUp ⟨b, result, wire⟩)) :
    Return.Exact ⟨b, result, wire⟩ ⟨j, b.templates.length⟩ := by
  have hlength := h.length_eq (by omega)
  have hle : ∀ i, wire.Confirmed (b.first + i) i → i ≤ j := by
    rintro i ⟨line, hline, -⟩
    have hreceived : b.first + i < wire.toClient.taken := hproper.received _ hline
    have htaken := hproper.taken_le
    omega
  refine ⟨rfl, hj, fun i hi => ⟨fun hi' => ?_, hsettled i⟩, fun i hi hconf => ?_, ?_⟩
  · refine Nat.lt_of_le_of_ne (hle i hi'.confirmed) fun heq => ?_
    obtain rfl : i = j := heq
    exact (hlast hi).1 hi'
  · rcases Nat.lt_or_eq_of_le (hle i hconf) with hlt | rfl
    · exact .inl hlt
    · exact .inr ⟨rfl, (hlast hi).2 hconf⟩
  · rintro i ⟨-, hi⟩
    have hsent : b.first + i < wire.toClient.lines.length := hi
    show i ≤ j
    omega

/-- A batch that has ended comes behind those before it. -/
theorem Batch.InOrder.sends {batches : List Batch} (h : b.InOrder wire)
    (hbefore : Sends batches (wire.toClient.lines.take b.first)) :
    Sends (batches ++ [b]) wire.toClient.lines := by
  obtain ⟨parts, hparts, hlines⟩ := hbefore
  refine ⟨parts ++ [wire.toClient.lines.drop b.first], ?_, ?_⟩
  · exact List.rel_append hparts (.cons h.lines .nil)
  · rw [List.flatten_append, ← hlines, List.flatten_singleton, List.take_append_drop]

theorem Parties.resume_of_busy {w : Parties}
    {rest : Dialogue (Except DeliveryError Progress × Session)}
    (h : Busy milliseconds b wire rest) :
    w.resume b wire rest = { w with wire, call := some (b, rest) } := by
  cases h with
  | sending hj _ _ _ =>
    obtain ⟨message, -, hstage⟩ := stage_eq milliseconds b.sequence hj
    rw [hstage]
    rfl
  | waiting => rfl

namespace Parties.Sound

variable {w : Parties}

/-- The delivery goes on. -/
theorem goes_on (h : w.Sound milliseconds) (hproper : wire.Proper)
    (hbefore : Sends (w.returned.map Return.batch) (wire.toClient.lines.take b.first))
    (hbegun : b.Begun wire k) {rest : Dialogue (Except DeliveryError Progress × Session)}
    (hbusy : Busy milliseconds b wire rest) : (w.resume b wire rest).Sound milliseconds := by
  rw [resume_of_busy hbusy]
  refine ⟨hproper, hbefore, ⟨_, hbegun.numbered⟩, by simp, ?_, h.past⟩
  intro b' rest' heq
  cases heq
  exact hbusy

/-- The delivery ends. -/
theorem ends (h : w.Sound milliseconds) (hproper : wire.Proper)
    (hbefore : Sends (w.returned.map Return.batch) (wire.toClient.lines.take b.first))
    (hnumbered : ∃ k, wire.Numbered k) {result : Except DeliveryError Progress}
    {session : Session} (hquiet : session.isOpen = true → wire.Quiet session.next)
    (horder : b.InOrder wire)
    (hexact : ∀ p, Return.progress? ⟨b, result, wire⟩ = some p →
      Return.Exact ⟨b, result, wire⟩ p) :
    (w.resume b wire (.done (result, session))).Sound milliseconds := by
  have hsends : Sends ((w.returned ++ [Return.mk b result wire]).map Return.batch)
      wire.toClient.lines := by
    rw [List.map_append]
    exact horder.sends hbefore
  refine ⟨hproper, hsends, hnumbered, fun _ => hquiet, by simp [resume], ?_⟩
  intro r hr
  rcases List.mem_append.mp hr with hr | hr
  · exact h.past r hr
  · obtain rfl := List.mem_singleton.mp hr
    exact ⟨horder, hexact⟩

theorem givesUp_fault {r : Reply} (hr : ∀ text, r ≠ .line text) (milliseconds : Nat)
    (p : Progress) : (r.fault milliseconds p).GivesUp := by
  cases r with
  | line text => exact absurd rfl (hr text)
  | timeout => trivial
  | lost reason => trivial

/-- The session has a reply to the message at place `j`, or could not send it. A reply that
confirms or completes is the client's answer to this message. -/
theorem reply (h : w.Sound milliseconds) (hproper : wire.Proper)
    (hbefore : Sends (w.returned.map Return.batch) (wire.toClient.lines.take b.first))
    (hj : j ≤ b.templates.length) (hbegun : b.Begun wire k) (hk : k ≤ j + 1)
    (hsettled : ∀ i < j, wire.Settled (b.first + i) i) {r : Reply}
    (hline : r.ack?.isSome = true → k = j + 1 ∧ wire.Answered (b.first + (j + 1)))
    (hconfirms : r.Confirms j → wire.Settled (b.first + j) j)
    (hlast : ¬ r.Confirms j → ¬ wire.Settled (b.first + j) j ∧
      (wire.Confirmed (b.first + j) j → ∀ text, r ≠ .line text)) :
    (w.resume b wire (react milliseconds b.sequence b.templates j r)).Sound milliseconds := by
  have horder : b.InOrder wire := hbegun.inOrder hj hk hsettled
  have hnumbered : ∃ k, wire.Numbered k := ⟨_, hbegun.numbered⟩
  have hfault : ∀ session : Session, session.isOpen = false →
      (j < b.templates.length → ¬ r.Confirms j) →
      (w.resume b wire (.done (.error (r.fault milliseconds ⟨j, b.templates.length⟩),
        session))).Sound milliseconds := by
    intro session hclosed hstop
    refine h.ends hproper hbefore hnumbered (by simp [hclosed]) horder fun p hp => ?_
    obtain rfl : ⟨j, b.templates.length⟩ = p :=
      Option.some.inj ((Reply.progress?_fault _ _ _).symm.trans hp)
    refine hbegun.exact hj hk hproper hsettled fun hlt => ?_
    obtain ⟨hopen, hvain⟩ := hlast (hstop hlt)
    exact ⟨hopen, fun hconf => ⟨_, rfl, givesUp_fault (hvain hconf) _ _⟩⟩
  rw [react]
  split
  · rename_i hlt
    split
    · rename_i hconf
      obtain ⟨rfl, hanswered⟩ := hline hconf.isSome_ack?
      refine h.goes_on hproper hbefore hbegun (.sending hlt hbegun hanswered fun i hi => ?_)
      rcases Nat.lt_succ_iff_lt_or_eq.mp hi with hi | rfl
      · exact hsettled i hi
      · exact hconfirms hconf
    · exact hfault _ rfl (fun _ => ‹_›)
  · rename_i hge
    obtain rfl : j = b.templates.length := by omega
    split
    · rename_i hcompletes
      obtain ⟨rfl, hanswered⟩ := hline hcompletes.isSome_ack?
      refine h.ends hproper hbefore hnumbered (fun _ => ⟨?_, ?_⟩) horder fun p hp => ?_
      · simpa using hbegun.numbered
      · rwa [hbegun.length_eq (by omega)]
      · cases hp
        exact hbegun.exact hj hk hproper hsettled (by simp)
    · exact hfault _ rfl (by simp)

/-- The session goes on without an answer to the message at place `j`. -/
theorem reply_in_vain (h : w.Sound milliseconds) (hproper : wire.Proper)
    (hbefore : Sends (w.returned.map Return.batch) (wire.toClient.lines.take b.first))
    (hj : j ≤ b.templates.length) (hbegun : b.Begun wire k) (hk : k ≤ j + 1)
    (hanswered : wire.Answered (b.first + j))
    (hsettled : ∀ i < j, wire.Settled (b.first + i) i) {r : Reply} (hr : ∀ text, r ≠ .line text) :
    (w.resume b wire (react milliseconds b.sequence b.templates j r)).Sound milliseconds := by
  have hack : r.ack? = none := by
    cases r with
    | line text => exact absurd rfl (hr text)
    | timeout => rfl
    | lost reason => rfl
  refine h.reply hproper hbefore hj hbegun hk hsettled (by simp [hack]) (fun hconf => ?_) fun _ =>
    ⟨hanswered.not_settled j, fun _ => hr⟩
  have hsome := hconf.isSome_ack?
  rw [hack] at hsome
  cases hsome

end Parties.Sound

/-! ## Moves keep the invariant -/

section

variable {next : Reply → Dialogue (Except DeliveryError Progress × Session)}

theorem Busy.of_send {line : String}
    {next : Option String → Dialogue (Except DeliveryError Progress × Session)}
    (h : Busy milliseconds b wire (.send line next)) :
    ∃ j message, j ≤ b.templates.length ∧ b.Begun wire j ∧ wire.Answered (b.first + j) ∧
      (∀ i < j, wire.Settled (b.first + i) i) ∧
      (batchMessages b.sequence b.templates)[j]? = some message ∧ line = message.text ∧
      next none = .receive (react milliseconds b.sequence b.templates j) ∧
      ∀ reason, next (some reason) =
        react milliseconds b.sequence b.templates j (.lost reason) := by
  generalize hrest : Dialogue.send line next = rest at h
  cases h with
  | sending hj begun answered settled =>
    obtain ⟨message, hmessage, hstage⟩ := stage_eq milliseconds b.sequence hj
    rw [hstage, Dialogue.ask] at hrest
    obtain ⟨rfl, rfl⟩ := Dialogue.send.inj hrest
    exact ⟨_, message, hj, begun, answered, settled, hmessage, rfl, rfl, fun _ => rfl⟩
  | waiting => cases hrest

theorem Busy.of_receive (h : Busy milliseconds b wire (.receive next)) :
    ∃ j, j ≤ b.templates.length ∧ b.Begun wire (j + 1) ∧ wire.Answered (b.first + j) ∧
      (∀ i < j, wire.Settled (b.first + i) i) ∧
      next = react milliseconds b.sequence b.templates j := by
  generalize hrest : Dialogue.receive next = rest at h
  cases h with
  | sending hj =>
    obtain ⟨message, -, hstage⟩ := stage_eq milliseconds b.sequence hj
    rw [hstage, Dialogue.ask] at hrest
    cases hrest
  | waiting hj begun answered settled =>
    cases hrest
    exact ⟨_, hj, begun, answered, settled, rfl⟩

end

namespace Parties.Sound

variable {w : Parties}

/-- What the client does changes neither the lines that it was sent nor those that were taken. -/
theorem of_client (h : w.Sound milliseconds) (hproper : wire.Proper)
    (hlines : wire.toClient.lines = w.wire.toClient.lines)
    (htaken : wire.toSession.taken = w.wire.toSession.taken)
    (hread : ∀ count, w.wire.Answered count → wire.toSession.read = w.wire.toSession.read) :
    Sound milliseconds { w with wire } := by
  have hnumbered : ∀ k, w.wire.Numbered k → wire.Numbered k := by
    intro k hk
    rwa [Connection.Numbered, hlines]
  have hbegun : ∀ b k, Batch.Begun b w.wire k → b.Begun wire k := by
    intro b k hk
    rwa [Batch.Begun, hlines]
  have hanswered : ∀ count, w.wire.Answered count → wire.Answered count := fun count hcount =>
    ⟨htaken.trans hcount.taken, by rw [hread count hcount, hcount.numbers]⟩
  have hsettled : ∀ count message index, w.wire.Answered count → w.wire.Settled message index →
      wire.Settled message index := by
    intro count message index hcount hsettled
    rwa [Connection.Settled, hread count hcount]
  have hbefore : Parties.before { w with wire } = w.before := by
    rw [Parties.before, Parties.before, hlines]
  refine ⟨hproper, hbefore ▸ h.before, h.numbered.imp hnumbered, fun hcall hopen => ?_,
    fun b rest hcall => ?_, h.past⟩
  · have hquiet := h.idle hcall hopen
    refine ⟨hnumbered _ hquiet.numbered, ?_⟩
    rw [hlines]
    exact hanswered _ hquiet.answered
  · cases h.busy b rest hcall with
    | sending hj begun answered settled =>
      exact .sending hj (hbegun _ _ begun) (hanswered _ answered)
        fun i hi => hsettled _ _ _ answered (settled i hi)
    | waiting hj begun answered settled =>
      exact .waiting hj (hbegun _ _ begun) (hanswered _ answered)
        fun i hi => hsettled _ _ _ answered (settled i hi)

theorem before_of_call (h : w.Sound milliseconds)
    {rest : Dialogue (Except DeliveryError Progress × Session)} (hcall : w.call = some (b, rest)) :
    Sends (w.returned.map Return.batch) (w.wire.toClient.lines.take b.first) := by
  have hbefore := h.before
  rwa [Parties.before, hcall] at hbefore

theorem read (h : w.Sound milliseconds) {line : String}
    (hnext : w.wire.toClient.next? = some line) :
    Sound milliseconds { w with wire.toClient := w.wire.toClient.advance } := by
  obtain ⟨hlt, -⟩ := List.getElem?_eq_some_iff.mp hnext
  refine h.of_client ⟨hlt, fun a ha => ?_, h.proper.once⟩ rfl rfl fun _ _ => rfl
  exact Nat.lt_succ_of_lt (h.proper.received a ha)

theorem answer (h : w.Sound milliseconds) {message : Nat} {line : List UInt8}
    (hreceived : message < w.wire.toClient.taken)
    (honce : message ∉ w.wire.toSession.lines.map Prod.fst) :
    Sound milliseconds { w with wire.toSession := w.wire.toSession.put (message, line) } := by
  refine h.of_client ⟨h.proper.taken_le, fun a ha => ?_, ?_⟩ rfl rfl fun count hcount => ?_
  · rcases List.mem_append.mp ha with ha | ha
    · exact h.proper.received a ha
    · obtain rfl := List.mem_singleton.mp ha
      exact hreceived
  · rw [Channel.put, List.map_append, List.map_singleton, List.nodup_append']
    exact ⟨h.proper.once, List.nodup_singleton _, List.disjoint_singleton.mpr honce⟩
  · -- the new line stands behind the lines that were taken
    exact List.take_append_of_le_length hcount.taken_le

theorem hangUp (h : w.Sound milliseconds) : Sound milliseconds { w with wire.isGone := true } :=
  h.of_client ⟨h.proper.taken_le, h.proper.received, h.proper.once⟩ rfl rfl fun _ _ => rfl

theorem deliver (h : w.Sound milliseconds) (hcall : w.call = none) (templates : List TemplateCode) :
    (w.resume ⟨templates, w.session.next, w.wire.toClient.lines.length⟩ w.wire
      (w.session.deliver Dialogue.link milliseconds templates)).Sound milliseconds := by
  have hbefore : Sends (w.returned.map Return.batch)
      (w.wire.toClient.lines.take w.wire.toClient.lines.length) := by
    have hbefore := h.before
    rw [Parties.before, hcall] at hbefore
    rwa [List.take_length]
  by_cases hopen : w.session.isOpen = true
  · rw [Session.deliver_of_open hopen]
    have hquiet := h.idle hcall hopen
    obtain ⟨messages, hlines, hnumbers⟩ := hquiet.numbered
    have hbegun : Batch.Begun ⟨templates, w.session.next, w.wire.toClient.lines.length⟩
        w.wire 0 :=
      ⟨messages, by simp [hlines], hnumbers, by simpa using hlines⟩
    exact h.goes_on h.proper hbefore hbegun
      (.sending (Nat.zero_le _) hbegun hquiet.answered fun i hi => absurd hi (Nat.not_lt_zero i))
  · have hclosed : w.session.deliver Dialogue.link milliseconds templates =
        .done (.error .closed, w.session) := by
      rw [Session.deliver, if_neg hopen]
      rfl
    rw [hclosed]
    refine h.ends h.proper hbefore h.numbered (fun hopen' => absurd hopen' hopen) ⟨?_, ?_⟩
      (by simp [Return.progress?, DeliveryError.progress?])
    · simp
    · rintro i ⟨-, hi⟩
      exact absurd hi (by simp)

/-- The session sends its line. -/
theorem send (h : w.Sound milliseconds) {line : String}
    {next : Option String → Dialogue (Except DeliveryError Progress × Session)}
    (hcall : w.call = some (b, .send line next)) :
    (w.resume b { w.wire with toClient := w.wire.toClient.put line } (next none)).Sound
      milliseconds := by
  obtain ⟨j, message, hj, hbegun, hanswered, hsettled, hmessage, rfl, hnext, -⟩ :=
    (h.busy _ _ hcall).of_send
  rw [hnext]
  have hbegun' := hbegun.send hmessage
  have htaken := h.proper.taken_le
  have hproper : Connection.Proper { w.wire with toClient := w.wire.toClient.put message.text } :=
    ⟨by simp [Channel.put]; omega, h.proper.received, h.proper.once⟩
  have hbefore : Sends (w.returned.map Return.batch)
      ((w.wire.toClient.put message.text).lines.take b.first) := by
    have hlength := hbegun.length_eq (by omega)
    rw [Channel.put, List.take_append_of_le_length (by omega)]
    exact h.before_of_call hcall
  exact h.goes_on hproper hbefore hbegun'
    (.waiting hj hbegun' ⟨hanswered.taken, hanswered.numbers⟩ hsettled)

/-- The session takes out the answer of the client. -/
theorem receive (h : w.Sound milliseconds)
    {next : Reply → Dialogue (Except DeliveryError Progress × Session)}
    (hcall : w.call = some (b, .receive next)) {a : Nat × List UInt8}
    (hnext : w.wire.toSession.next? = some a) :
    (w.resume b { w.wire with toSession := w.wire.toSession.advance }
      (next (Client.lineReply a.2))).Sound milliseconds := by
  obtain ⟨j, hj, hbegun, hanswered, hsettled, rfl⟩ := (h.busy _ _ hcall).of_receive
  have hlength := hbegun.length_eq (by omega)
  have hnumber : a.1 = b.first + j := hanswered.next_eq h.proper (by omega) hnext
  have hread := Channel.read_advance hnext
  have hsettled' : ∀ i < j, Connection.Settled
      { w.wire with toSession := w.wire.toSession.advance } (b.first + i) i := by
    intro i hi
    obtain ⟨line, hline, hconf⟩ := hsettled i hi
    refine ⟨line, ?_, hconf⟩
    rw [hread]
    exact List.mem_append_left _ hline
  have hproper : Connection.Proper { w.wire with toSession := w.wire.toSession.advance } :=
    ⟨h.proper.taken_le, h.proper.received, h.proper.once⟩
  refine h.reply hproper (h.before_of_call hcall) hj hbegun le_rfl hsettled'
    (fun _ => ⟨rfl, hanswered.advance hnext hnumber⟩) (fun hconf => ?_) (fun hconf => ?_)
  · refine ⟨a.2, ?_, hconf⟩
    rw [hread, ← hnumber]
    exact List.mem_append_right _ (List.mem_singleton.mpr rfl)
  · -- the message has no other answer
    have hother : ¬ w.wire.Confirmed (b.first + j) j := by
      rintro ⟨line, hline, hline_conf⟩
      have ha : a ∈ w.wire.toSession.lines := List.mem_of_getElem? hnext
      have heq : (b.first + j, line) = a :=
        List.inj_on_of_nodup_map h.proper.once hline ha hnumber.symm
      exact hconf (heq ▸ hline_conf)
    exact ⟨fun hset => hother hset.confirmed, fun hother' => absurd hother' hother⟩

/-- The session cannot send its line. -/
theorem send_lost (h : w.Sound milliseconds) {line : String}
    {next : Option String → Dialogue (Except DeliveryError Progress × Session)}
    (hcall : w.call = some (b, .send line next)) (reason : String) :
    (w.resume b w.wire (next (some reason))).Sound milliseconds := by
  obtain ⟨j, message, hj, hbegun, hanswered, hsettled, -, -, -, hnext⟩ :=
    (h.busy _ _ hcall).of_send
  rw [hnext]
  exact h.reply_in_vain h.proper (h.before_of_call hcall) hj hbegun (Nat.le_succ j) hanswered
    hsettled (by simp)

/-- The session waits in vain. -/
theorem receive_nothing (h : w.Sound milliseconds)
    {next : Reply → Dialogue (Except DeliveryError Progress × Session)}
    (hcall : w.call = some (b, .receive next)) {r : Reply} (hr : ∀ text, r ≠ .line text) :
    (w.resume b w.wire (next r)).Sound milliseconds := by
  obtain ⟨j, hj, hbegun, hanswered, hsettled, rfl⟩ := (h.busy _ _ hcall).of_receive
  exact h.reply_in_vain h.proper (h.before_of_call hcall) hj hbegun le_rfl hanswered hsettled hr

theorem move {move : Move} {w' : Parties} (h : w.Sound milliseconds)
    (hmove : w.move? milliseconds move = some w') : w'.Sound milliseconds := by
  cases move with
  | deliver templates =>
    simp only [move?] at hmove
    split at hmove
    · cases hmove
      exact h.deliver ‹_› templates
    · cases hmove
  | proceed =>
    simp only [move?] at hmove
    split at hmove
    · cases hmove
      exact h.send ‹_›
    · obtain ⟨a, hnext, rfl⟩ := Option.map_eq_some_iff.mp hmove
      exact h.receive ‹_› hnext
    · cases hmove
  | lose reason =>
    simp only [move?] at hmove
    split at hmove
    · obtain ⟨-, heq⟩ := Option.ite_none_right_eq_some.mp hmove
      cases heq
      exact h.send_lost ‹_› reason
    · obtain ⟨-, heq⟩ := Option.ite_none_right_eq_some.mp hmove
      cases heq
      exact h.receive_nothing ‹_› (by simp)
    · cases hmove
  | timeOut =>
    simp only [move?] at hmove
    split at hmove
    · cases hmove
      exact h.receive_nothing ‹_› (by simp)
    · cases hmove
  | read =>
    simp only [move?] at hmove
    split at hmove
    · cases hmove
    · obtain ⟨line, hnext, rfl⟩ := Option.map_eq_some_iff.mp hmove
      exact h.read hnext
  | answer message line =>
    simp only [move?] at hmove
    obtain ⟨⟨-, hreceived, honce⟩, heq⟩ := Option.ite_none_right_eq_some.mp hmove
    cases heq
    exact h.answer hreceived honce
  | hangUp =>
    cases hmove
    exact h.hangUp

theorem inOrder (h : w.Sound milliseconds)
    {rest : Dialogue (Except DeliveryError Progress × Session)} (hcall : w.call = some (b, rest)) :
    b.InOrder w.wire := by
  cases h.busy b rest hcall with
  | sending hj begun _ settled => exact begun.inOrder hj (Nat.le_succ _) settled
  | waiting hj begun _ settled => exact begun.inOrder hj le_rfl settled

theorem sends (h : w.Sound milliseconds) : Sends w.batches w.wire.toClient.lines := by
  rw [Parties.batches]
  cases hcall : w.call with
  | none =>
    have hbefore := h.before
    rw [Parties.before, hcall] at hbefore
    simpa using hbefore
  | some call =>
    obtain ⟨b, rest⟩ := call
    exact (h.inOrder hcall).sends (h.before_of_call hcall)

theorem of_reachable (h : w.Reachable milliseconds) : w.Sound milliseconds := by
  refine h.induction ⟨⟨le_rfl, by simp, List.nodup_nil⟩, ⟨[], .nil, rfl⟩, ⟨0, [], rfl, .nil⟩,
    fun _ _ => ⟨⟨[], rfl, .nil⟩, ⟨rfl, rfl⟩⟩, by simp, by simp⟩ ?_
  intro w move w' hw hmove
  exact hw.move hmove

end Parties.Sound

end

/-- A session and its client agree, whatever the client answers and however both interleave: the
messages of a batch are sent in order, each template only after the client has confirmed the one
before it; no message is sent twice, and no two templates that the client receives look the same
before the numbers come round; and the progress that a delivery returns, as its result or with its
error, counts the templates that the client has confirmed in answer to these very messages, up to
one whose answer the session did not wait for. -/
theorem delivery_agrees {milliseconds : Nat} {w : Parties} (h : w.Reachable milliseconds) :
    (∀ b rest, w.call = some (b, rest) → b.InOrder w.wire) ∧
      Sends w.batches w.wire.toClient.lines ∧ w.wire.Distinct ∧
      ∀ r ∈ w.returned, r.batch.InOrder r.wire ∧ ∀ p, r.progress? = some p → r.Exact p := by
  have hsound := Parties.Sound.of_reachable h
  obtain ⟨k, hnumbered⟩ := hsound.numbered
  exact ⟨fun b rest hcall => hsound.inOrder hcall, hsound.sends, hnumbered.distinct, hsound.past⟩

namespace Sample

/-- The session sends a message and the client reads it. -/
def sent : List Move := [.proceed, .read]

def answer (message : Nat) (line : String) : Move := .answer message line.toUTF8.data.toList

/-- A batch that succeeds, and one whose second template is confirmed just before the session gives
up. -/
def lateAnswer : List Move :=
  [.deliver (codes.take 1)] ++ sent ++
    [answer 0 "\x7b\"status\":\"success\",\"index\":0\x7d", .proceed] ++ sent ++
    [answer 1 "\x7b\"status\":\"complete\"\x7d", .proceed] ++
    [.deliver codes] ++ sent ++
    [answer 2 "\x7b\"status\":\"success\",\"index\":0\x7d", .proceed] ++ sent ++
    [answer 3 "\x7b\"status\":\"success\",\"index\":1\x7d", .timeOut]

/-- The same for the first template of the first batch. -/
def firstAnswerLate : List Move :=
  [.deliver (codes.take 1)] ++ sent ++
    [answer 0 "\x7b\"status\":\"success\",\"index\":0\x7d", .timeOut]

end Sample

theorem delivery_agrees_late_answer :
    ∃ w : Parties, w.Reachable 5000 ∧
      w.returned.map Return.progress? = [some ⟨1, 1⟩, some ⟨1, 2⟩] ∧
      w.wire.toClient.read.map (fun line => (Message.ofText? line).bind Message.sequence?) =
        [some 0, none, some 1, some 2] ∧
      Sends w.batches w.wire.toClient.lines ∧ w.wire.Distinct ∧
      ∀ r ∈ w.returned, r.batch.InOrder r.wire ∧ ∀ p, r.progress? = some p → r.Exact p := by
  have hview : (Sample.lateAnswer.foldlM (Parties.move? 5000) {}).map (fun w =>
      (w.returned.map Return.progress?,
        w.wire.toClient.read.map fun line => (Message.ofText? line).bind Message.sequence?)) =
      some ([some ⟨1, 1⟩, some ⟨1, 2⟩], [some 0, none, some 1, some 2]) := by
    decide +kernel
  obtain ⟨w, hw, heq⟩ := Option.map_eq_some_iff.mp hview
  obtain ⟨hprogress, hnumbers⟩ := Prod.mk.inj heq
  have hreachable : w.Reachable 5000 := ⟨_, hw⟩
  obtain ⟨-, hsends, hdistinct, hpast⟩ := delivery_agrees hreachable
  exact ⟨w, hreachable, hprogress, hnumbers, hsends, hdistinct, hpast⟩

/-- A progress need not count all that the client has confirmed: the only template of the batch is
confirmed, and the delivery ends with nothing delivered. -/
theorem confirmed_on_the_way :
    ∃ w : Parties, w.Reachable 5000 ∧ ∃ r ∈ w.returned, r.progress? = some ⟨0, 1⟩ ∧
      r.wire.Confirmed r.batch.first 0 := by
  have hview : (Sample.firstAnswerLate.foldlM (Parties.move? 5000) {}).map (fun w =>
      w.returned.map fun r => (r.progress?, r.batch.first, r.wire.toSession.lines.map fun a =>
        (a.1, decide ((Client.lineReply a.2).Confirms 0)))) =
      some [(some ⟨0, 1⟩, 0, [(0, true)])] := by
    decide +kernel
  obtain ⟨w, hw, heq⟩ := Option.map_eq_some_iff.mp hview
  obtain ⟨r, hr, heq⟩ := List.map_eq_singleton_iff.mp heq
  obtain ⟨hprogress, hrest⟩ := Prod.mk.inj heq
  obtain ⟨hfirst, hanswers⟩ := Prod.mk.inj hrest
  obtain ⟨⟨number, line⟩, hlines, hconf⟩ := List.map_eq_singleton_iff.mp hanswers
  obtain ⟨rfl, hconf⟩ := Prod.mk.inj hconf
  refine ⟨w, ⟨_, hw⟩, r, by rw [hr]; exact List.mem_singleton_self r, hprogress, line, ?_,
    of_decide_eq_true hconf⟩
  rw [hlines, hfirst]
  exact List.mem_singleton_self _

end Plotline
