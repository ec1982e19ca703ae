import DetectorSim.Proofs.Messaging.Places
import DetectorSim.Proofs.Module.Sparing

/-!
# Where errors come from

An error starts in the code of a module.  On its way out it is wrapped by whoever called
the code: by the instance, if a hook or the run in an event was called, and by the
messenger, if a listener was called with a message.  Nothing else wraps an error, and
nothing takes a wrapper off.  So what comes out of a call names the instance and the phase,
and what comes out of a dispatch names the listener or is the refusal of a slot.
-/

set_option autoImplicit false

namespace DetectorSim

namespace Error

/-- Someone is named as the one that has failed. -/
def IsWrapped : Error → Prop
  | .inModule .. => True
  | _ => False

/-- The innermost cause of an error is not wrapped. -/
theorem not_isWrapped_cause (err : Error) : ¬ err.cause.IsWrapped := by
  induction err with
  | inModule module phase source ih => exact ih
  | _ => exact id

end Error

/-! ## Calls of instances -/

/-- The hook of a module that is called in a phase, outside of events. -/
def Module.hook? {κ ω : Type} [Payload κ] (module : Module κ ω) : Phase → Option (Hook ω Unit)
  | .init => some module.init
  | .threadInit => some module.threadInit
  | .threadFinalize => some module.threadFinalize
  | .finalize => some module.finalize
  | .construction => none
  | .run => none

namespace Instance

variable {κ ω : Type} [Payload κ] [DecidableEq κ] {inst : Instance κ ω}
  {messenger : Messenger κ ω} {phase : Phase} {err : Error}

/-- The code of an instance ends with an error when it is called in a phase. -/
inductive Raises (inst : Instance κ ω) (messenger : Messenger κ ω) : Phase → Error → Prop
  | hook {phase : Phase} {hook : Hook ω Unit} {env : Env ω} {cause : Error}
      (called : inst.module.hook? phase = some hook)
      (failed : (hook.exec env).1 = .error cause) : Raises inst messenger phase cause
  /-- Instances are not run in an event while a required input is missing. -/
  | run {state : EventState κ ω} {cause : Error}
      (supplied : messenger.missingRequired inst.receiver.id state.data.store = [])
      (failed : (inst.module.run.exec messenger inst.receiver state).1 = .error cause) :
      Raises inst messenger .run cause

/-- An error names an instance and a phase, and wraps what the code of the instance has ended
with in this phase. -/
def Answers (inst : Instance κ ω) (messenger : Messenger κ ω) (phase : Phase)
    (err : Error) : Prop :=
  ∃ cause, inst.Raises messenger phase cause ∧ err = cause.inModule inst.name phase

/-- The error of a call outside of events is that of the hook, wrapped. -/
theorem answers_of_call {hook : Hook ω Unit} {letter : String} {env : Env ω}
    (called : inst.module.hook? phase = some hook)
    (failed : (inst.call letter phase hook.exec env).1 = .error err) :
    inst.Answers messenger phase err := by
  obtain ⟨journal, cause, ended, err_eq⟩ := exists_cause_of_call_error failed
  exact ⟨cause, .hook called ended, err_eq⟩

/-- The error of an event at an instance is that of its code, wrapped. -/
theorem answers_of_runEvent {state : EventState κ ω}
    (failed : (inst.runEvent messenger state).1 = .error err) :
    inst.Answers messenger .run err := by
  by_cases supplied : messenger.missingRequired inst.receiver.id state.data.store = []
  · rw [runEvent_of_missing_eq_nil supplied] at failed
    simp only [called, Proc.bind_apply, Proc.andThen] at failed
    rcases ran : inst.call "R" .run (EventCode.exec messenger inst.receiver inst.module.run) state
      with ⟨outcome, after⟩
    rw [ran] at failed
    cases outcome with
    | ok value => cases failed
    | error other =>
      obtain rfl := Outcome.error.inj failed
      obtain ⟨journal, cause, ended, err_eq⟩ := exists_cause_of_call_error (congrArg Prod.fst ran)
      refine ⟨cause, .run ?_ ended, err_eq⟩
      exact supplied
    | panic text => cases failed
  · obtain ⟨text, skipped⟩ := exists_of_missing_ne_nil supplied
    rw [skipped] at failed
    cases failed

end Instance

/-! ## Dispatches -/

section Dispatching

variable {κ ω : Type} [Payload κ] [DecidableEq κ] {messenger : Messenger κ ω}
  {message : AnyMessage κ} {delegate : Delegate κ ω} {err : Error}

/-- Why a message can not be given to a delegate. -/
inductive Delegate.Objects (delegate : Delegate κ ω) (message : AnyMessage κ) : Error → Prop
  /-- Its listener ends with an error, which is wrapped with the name of who listens. -/
  | listener {callback : AnyMessage κ → Hook ω Unit} {env : Env ω} {cause : Error}
      (listens : delegate.kind = .listener callback)
      (failed : ((callback message).exec env).1 = .error cause) :
      Objects delegate message (cause.inModule delegate.receiver.name .run)
  /-- Its slot does not take the message. -/
  | slot {store : MessageStore κ} {err : Error}
      (refused : store.deliver delegate message = .error err) (plain : ¬ err.IsWrapped) :
      Objects delegate message err

omit [DecidableEq κ] in
/-- No one is named when a slot does not take a message. -/
theorem MessageStore.not_isWrapped_of_deliver {store : MessageStore κ}
    (refused : store.deliver delegate message = .error err) : ¬ err.IsWrapped := by
  simp only [deliver] at refused
  split at refused
  · cases refused
    exact id
  · next state held =>
    cases state with
    | single held =>
      simp only [accept] at refused
      split_ifs at refused
      cases refused
      exact id
    | multi held => cases refused
    | listener calls => cases refused

namespace Messenger

omit [DecidableEq κ] in
theorem objects_of_serve {state : MessageStore κ × Env ω}
    (failed : (serve message delegate state).1 = .error err) : delegate.Objects message err := by
  obtain ⟨store, env⟩ := state
  rcases heard : callListener delegate message env with ⟨outcome, after⟩
  simp only [serve, heard] at failed
  cases outcome with
  | ok value =>
    rcases delivered : store.deliver delegate message with other | filled
    · simp only [delivered] at failed
      obtain rfl := Outcome.error.inj failed
      exact .slot delivered (MessageStore.not_isWrapped_of_deliver delivered)
    · simp only [delivered] at failed
      cases failed
  | error other =>
    obtain rfl := Outcome.error.inj failed
    unfold callListener at heard
    cases kind : delegate.kind with
    | listener callback =>
      simp only [kind, Proc.mapError] at heard
      rcases ended : (callback message).exec env with ⟨inner, left⟩
      rw [ended] at heard
      cases inner with
      | error cause =>
        cases heard
        exact .listener kind (congrArg Prod.fst ended)
      | ok value => cases heard
      | panic text => cases heard
    | _ =>
      simp only [kind] at heard
      cases heard
  | panic text => cases failed

/-- The error of a dispatch is the objection of one of the delegates that the message is
for. -/
theorem exists_objects_of_dispatch {source : Receiver} {state : MessageStore κ × Env ω}
    (failed : (messenger.dispatch source message state).1 = .error err) :
    ∃ delegate ∈ messenger.accepting message, delegate.Objects message err := by
  unfold dispatch at failed
  split at failed
  · simp only [Proc.bind_apply, Proc.andThen] at failed
    rcases served : Proc.each (serve message) (messenger.accepting message) state
      with ⟨outcome, after⟩
    rw [served] at failed
    cases outcome with
    | ok value => cases failed
    | error other =>
      obtain rfl := Outcome.error.inj failed
      obtain ⟨delegate, accepts, mid, ended⟩ :=
        Proc.exists_of_each_error (congrArg Prod.fst served)
      exact ⟨delegate, accepts, objects_of_serve ended⟩
    | panic text => cases failed
  · cases failed

end Messenger

/-- Whatever code shows comes from an operation that was performed. -/
theorem EventCode.exists_perform_of_mem_sights {α : Type} {receiver : Receiver}
    {code : EventCode κ ω α} {state : EventState κ ω} {sight : Sight κ}
    (seen : sight ∈ code.sights messenger receiver state) :
    ∃ op reply mid after, EventOp.perform messenger receiver op mid = (.ok reply, after) ∧
      sight ∈ op.sights reply := by
  induction code generalizing state with
  | done value => cases seen
  | fail cause => cases seen
  | panic text => cases seen
  | ask op next ih =>
    unfold sights at seen
    split at seen
    · next reply mid performed =>
      rcases List.mem_append.mp seen with here | later
      · exact ⟨op, reply, state, mid, performed, here⟩
      · exact ih reply later
    · cases seen

/-- A dispatch of an instance that was seen to fail did so for one of the delegates that the
message was for. -/
theorem Instance.exists_objects_of_mem_sights {inst : Instance κ ω} {state : EventState κ ω}
    (seen : .dispatched message (.error err) ∈ inst.sights messenger state) :
    ∃ delegate ∈ messenger.accepting message, delegate.Objects message err := by
  by_cases supplied : messenger.missingRequired inst.receiver.id state.data.store = []
  · rw [sights_of_missing_eq_nil supplied] at seen
    obtain ⟨op, reply, mid, after, performed, seen⟩ := EventCode.exists_perform_of_mem_sights seen
    cases op with
    | dispatch other =>
      obtain ⟨rfl, rfl⟩ := Sight.dispatched.inj (List.mem_singleton.mp seen)
      simp only [EventOp.perform, EventOp.caught, EventState.onStore, Proc.zoom] at performed
      rcases sent : messenger.dispatch inst.receiver message (mid.data.store, mid.env)
        with ⟨outcome, store, env⟩
      rw [sent] at performed
      cases outcome with
      | error cause =>
        cases performed
        exact Messenger.exists_objects_of_dispatch (congrArg Prod.fst sent)
      | ok value => cases performed
      | panic text => cases performed
    | hook op => cases seen
    | _ => cases List.mem_singleton.mp seen
  · rw [sights_of_missing_ne_nil supplied] at seen
    cases seen

end Dispatching

end DetectorSim
