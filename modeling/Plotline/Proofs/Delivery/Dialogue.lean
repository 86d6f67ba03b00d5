import Plotline.Proofs.Delivery.Answers

/-!
# What a session says and waits for

A session depends on its connection only through the outcomes of sending and of waiting. A
`Dialogue` keeps all of this as data: a tree whose nodes are operations on the connection and whose
branches are their outcomes. A session over the connection `Dialogue.link` is such a tree, and
`Session.run_deliver_link` says that over any other connection it does what the tree says.

A delivery asks one question after the other (`Dialogue.ask`), one for every message of the batch.
`stage_eq` gives the tree from a message of the batch on.
-/

namespace Plotline

/-- A computation that sends lines and waits for replies. -/
inductive Dialogue (α : Type)
  | done (a : α)
  | send (line : String) (next : Option String → Dialogue α)
  | receive (next : Reply → Dialogue α)

namespace Dialogue

variable {α β : Type}

protected def bind : Dialogue α → (α → Dialogue β) → Dialogue β
  | .done a, f => f a
  | .send line next, f => .send line fun failure => (next failure).bind f
  | .receive next, f => .receive fun reply => (next reply).bind f

instance : Monad Dialogue where
  pure := .done
  bind := Dialogue.bind

/-- The connection that records what is done with it. -/
def link : Link Dialogue where
  send line := .send line .done
  receive := .receive .done

/-- Sends a line and goes on with the reply. A line that cannot be sent counts as a lost
connection. -/
def ask (line : String) (next : Reply → Dialogue α) : Dialogue α :=
  .send line fun
    | some reason => next (.lost reason)
    | none => .receive next

theorem exchange_bind (message : Message) (f : Reply → Dialogue α) :
    link.exchange message >>= f = ask message.text f := by
  have hnext : ∀ failure : Option String,
      Dialogue.bind (match failure with
        | some reason => .done (.lost reason)
        | none => .receive .done) f =
      match failure with
        | some reason => f (.lost reason)
        | none => .receive f := by
    intro failure
    cases failure with
    | none => rfl
    | some reason => rfl
  exact congrArg (Dialogue.send message.text) (funext hnext)

theorem ask_bind (line : String) (f : Reply → Dialogue α) (g : α → Dialogue β) :
    ask line f >>= g = ask line fun reply => f reply >>= g := by
  refine congrArg (Dialogue.send line) (funext fun failure => ?_)
  cases failure with
  | none => rfl
  | some reason => rfl

/-! ## Other connections -/

/-- Holds the dialogue over a connection. -/
def run {m : Type → Type} [Monad m] (l : Link m) : Dialogue α → m α
  | .done a => pure a
  | .send line next => do (next (← l.send line)).run l
  | .receive next => do (next (← l.receive)).run l

variable {m : Type → Type} [Monad m] [LawfulMonad m]

theorem run_bind (l : Link m) (d : Dialogue α) (f : α → Dialogue β) :
    (d >>= f).run l = d.run l >>= fun a => (f a).run l := by
  induction d with
  | done a => exact (pure_bind (m := m) a fun a => (f a).run l).symm
  | send line next ih =>
    refine Eq.trans ?_ (bind_assoc _ _ _).symm
    exact bind_congr ih
  | receive next ih =>
    refine Eq.trans ?_ (bind_assoc _ _ _).symm
    exact bind_congr ih

theorem run_exchange (l : Link m) (message : Message) :
    (link.exchange message).run l = l.exchange message := by
  refine bind_congr fun failure => ?_
  cases failure with
  | none => exact bind_pure _
  | some reason => rfl

theorem run_deliverFrom_link (l : Link m) (milliseconds : Nat) (p : Progress) (sequence : UInt64)
    (templates : List TemplateCode) :
    (deliverFrom link milliseconds p sequence templates).run l =
      deliverFrom l milliseconds p sequence templates := by
  induction templates generalizing p sequence with
  | nil =>
    rw [deliverFrom, deliverFrom, run_bind, run_exchange]
    rfl
  | cons t ts ih =>
    rw [deliverFrom, deliverFrom, run_bind, run_exchange]
    refine bind_congr fun reply => ?_
    cases templateAnswer milliseconds p reply with
    | error e => rfl
    | ok _ => exact ih _ _

end Dialogue

/-- Over every connection a session does what its dialogue says. -/
theorem Session.run_deliver_link {m : Type → Type} [Monad m] [LawfulMonad m] (s : Session)
    (l : Link m) (milliseconds : Nat) (templates : List TemplateCode) :
    (s.deliver Dialogue.link milliseconds templates).run l =
      s.deliver l milliseconds templates := by
  rw [deliver, deliver]
  split
  · rw [Dialogue.run_bind, Dialogue.run_deliverFrom_link]
    rfl
  · rfl

/-! ## Stages of a delivery -/

/-- What a session still does in a batch from the message at place `j` on, when the first template
of the batch has the given number. -/
def stage (milliseconds : Nat) (sequence : UInt64) (templates : List TemplateCode) (j : Nat) :
    Dialogue (Except DeliveryError Progress × Session) := do
  let (result, sequence) ← deliverFrom Dialogue.link milliseconds ⟨j, templates.length⟩
    (sequence + .ofNat j) (templates.drop j)
  return (result, ⟨sequence, result.isOk⟩)

/-- What a session does with the reply to the message at place `j`. -/
def react (milliseconds : Nat) (sequence : UInt64) (templates : List TemplateCode) (j : Nat)
    (reply : Reply) : Dialogue (Except DeliveryError Progress × Session) :=
  let n := templates.length
  if j < n then
    if reply.Confirms j then stage milliseconds sequence templates (j + 1)
    else .done (.error (reply.fault milliseconds ⟨j, n⟩), ⟨sequence + .ofNat j + 1, false⟩)
  else if reply.Completes then .done (.ok ⟨j, n⟩, ⟨sequence + .ofNat j, true⟩)
  else .done (.error (reply.fault milliseconds ⟨j, n⟩), ⟨sequence + .ofNat j, false⟩)

section

variable {milliseconds : Nat} {sequence : UInt64} {templates : List TemplateCode} {j : Nat}

theorem stage_of_lt {t : TemplateCode} (h : templates[j]? = some t) :
    stage milliseconds sequence templates j =
      .ask (Message.template (sequence + .ofNat j) j t).text
        (react milliseconds sequence templates j) := by
  obtain ⟨hj, rfl⟩ := List.getElem?_eq_some_iff.mp h
  rw [stage, List.drop_eq_getElem_cons hj, deliverFrom, Dialogue.exchange_bind, Dialogue.ask_bind]
  refine congrArg _ (funext fun reply => ?_)
  rw [react, if_pos hj, templateAnswer_eq hj]
  by_cases hconf : reply.Confirms j
  · rw [if_pos hconf, if_pos hconf, stage, add_ofNat_succ]
  · rw [if_neg hconf, if_neg hconf]
    rfl

theorem stage_length :
    stage milliseconds sequence templates templates.length =
      .ask (Message.finish templates.length).text
        (react milliseconds sequence templates templates.length) := by
  rw [stage, List.drop_length, deliverFrom, Dialogue.exchange_bind, Dialogue.ask_bind]
  refine congrArg _ (funext fun reply => ?_)
  rw [react, if_neg (Nat.lt_irrefl _), finishAnswer_eq (Nat.lt_irrefl _)]
  by_cases hcomplete : reply.Completes
  · rw [if_pos hcomplete, if_pos hcomplete]
    rfl
  · rw [if_neg hcomplete, if_neg hcomplete]
    rfl

/-- From the message at place `j` on, a delivery asks for the reply to this message. -/
theorem stage_eq (milliseconds : Nat) (sequence : UInt64) (hj : j ≤ templates.length) :
    ∃ message, (batchMessages sequence templates)[j]? = some message ∧
      stage milliseconds sequence templates j =
        .ask message.text (react milliseconds sequence templates j) := by
  rcases Nat.lt_or_eq_of_le hj with hlt | rfl
  · have ht := List.getElem?_eq_getElem hlt
    exact ⟨_, getElem?_batchMessages ht, stage_of_lt ht⟩
  · exact ⟨_, getElem?_batchMessages_length _ _, stage_length⟩

theorem Session.deliver_of_open {s : Session} (hopen : s.isOpen = true) :
    s.deliver Dialogue.link milliseconds templates = stage milliseconds s.next templates 0 := by
  rw [deliver, if_pos hopen, stage, add_ofNat_zero]
  rfl

end

end Plotline
