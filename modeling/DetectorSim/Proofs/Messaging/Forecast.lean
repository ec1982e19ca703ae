import DetectorSim.Proofs.Messaging.Handout
import DetectorSim.Proofs.Messaging.Topics

/-!
# Asking before sending

Whether anybody would take a message can be asked before it is sent.  The answer depends on
the topic of the message alone, and it is found in the same places that a dispatch goes
through: if it is no, sending the message is nothing but a record in the log; if it is yes,
somebody gets the message, or somebody refuses it.
-/

set_option autoImplicit false

namespace DetectorSim

theorem Delegate.accepts_congr {κ ω : Type} [Payload κ] (delegate : Delegate κ ω)
    {detector other : Option Detector}
    (same : detector.map Detector.name = other.map Detector.name) :
    delegate.accepts detector = delegate.accepts other := by
  unfold accepts
  cases detector <;> cases other
  · rfl
  · cases same
  · cases same
  · simp only [Option.map_some, Option.some.injEq] at same
    cases delegate.receiver.detector with
    | none => rfl
    | some own => simp only [same]

/-- A slot has got one message more, or its listener was called once more. -/
def Bond.Got {κ ω : Type} [Payload κ] (bond : Bond κ ω) (message : AnyMessage κ)
    (before after : MessageStore κ) : Prop :=
  ∃ taken, before.state? bond.slot = some (bond.delegate.kind.slotKind.contents taken) ∧
    after.state? bond.slot = some (bond.delegate.kind.slotKind.contents (taken ++ [message]))

namespace Messenger

variable {κ ω : Type} [Payload κ] [DecidableEq κ] {event : Nat} {bonds : List (Bond κ ω)}
  {messenger : Messenger κ ω} {message query : AnyMessage κ} {store after : MessageStore κ}
  {env env' : Env ω} {receipts : List (Receipt κ)} {source : Receiver}
  {outcome : Outcome Unit}

/-- The answer is the same for all messages on a topic. -/
theorem hasReceiver_congr (same : query.topic = message.topic) :
    messenger.hasReceiver query = messenger.hasReceiver message := by
  obtain ⟨kind, names⟩ := Prod.mk.inj same
  unfold hasReceiver
  rw [kind]
  cases messenger.delegates.find? message.kind with
  | none => rfl
  | some lists => simp only [Delegate.accepts_congr _ names]

theorem accepting_eq_nil_iff :
    messenger.accepting message = [] ↔ messenger.hasReceiver message = false := by
  rw [← Bool.not_eq_true, hasReceiver_iff_exists, List.eq_nil_iff_forall_not_mem, not_exists]

/-! ## If the answer is no -/

/-- A message that nobody would take leaves nothing but a record in the log. -/
theorem dispatch_of_hasReceiver_eq_false (nobody : messenger.hasReceiver message = false)
    (source : Receiver) (state : MessageStore κ × Env ω) :
    ∃ text, messenger.dispatch source message state = Proc.log .trace text state := by
  unfold dispatch
  rw [accepting_eq_nil_iff.mpr nobody]
  split <;> exact ⟨_, rfl⟩

theorem callsOf_of_hasReceiver_eq_false (nobody : messenger.hasReceiver message = false)
    (state : MessageStore κ × Env ω) : messenger.callsOf message state = [] := by
  unfold callsOf
  rw [accepting_eq_nil_iff.mpr nobody]
  rfl

/-! ## If the answer is yes -/

/-- A message that somebody would take is refused by somebody or taken by somebody. -/
theorem Posted.got_or_refused (history : Posted event bonds messenger store receipts)
    (somebody : messenger.hasReceiver message = true)
    (ran : messenger.dispatch source message (store, env) = (outcome, (after, env'))) :
    (outcome ≠ .ok () ∧ ∃ bond ∈ bonds, bond.delegate ∈ messenger.accepting message ∧
        ∃ found, bond.delegate.Refuses message after found outcome) ∨
      (outcome = .ok () ∧ ∃ bond ∈ bonds, bond.delegate ∈ messenger.accepting message ∧
        bond.Got message store after) := by
  have built := history.built
  obtain ⟨mid, last, served, failing, later, handout, -⟩ := history.exists_handout ran
  have queued {bond : Bond κ ω} (among : bond ∈ messenger.queue message) :
      bond ∈ bonds ∧ bond.delegate ∈ messenger.accepting message := by
    refine ⟨((mem_queue built.wired built.ranked).mp among).1, ?_⟩
    rw [← map_delegate_queue built.ranked]
    exact List.mem_map_of_mem among
  cases failing with
  | some bond =>
    have among : bond ∈ messenger.queue message := by simp [handout.split]
    obtain ⟨failed, -, refuses, -⟩ := handout.failed bond rfl
    exact .inl ⟨failed, bond, (queued among).1, (queued among).2, mid, refuses⟩
  | none =>
    obtain ⟨rfl, fine, -⟩ := handout.complete rfl
    have all : messenger.queue message = served := by simpa using handout.split
    obtain ⟨delegate, accepts⟩ := hasReceiver_iff_exists.mp somebody
    rw [← map_delegate_queue built.ranked] at accepts
    obtain ⟨bond, among, -⟩ := List.mem_map.mp accepts
    obtain ⟨taken, before, more, -⟩ := handout.received bond (all ▸ among)
    exact .inr ⟨fine, bond, (queued among).1, (queued among).2, taken, before, more⟩

end Messenger
end DetectorSim
