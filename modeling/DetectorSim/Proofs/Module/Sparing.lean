import DetectorSim.Proofs.Module.Conduct

/-!
# What code leaves alone in the world

Code of a module changes the world by updates only, its own and those of the listeners
that it sends messages to, and nothing that it does takes it to another thread.  So a view
of the world and of the thread stays the same if no update shows in it, however the code
ends.
-/

set_option autoImplicit false

namespace DetectorSim

theorem Routine.within_of_forall {Op : Type} {Reply : Op → Type} {α : Type}
    {asks : Op → Prop} {fails : Error → Prop} (allowed : ∀ op, asks op)
    (known : ∀ err, fails err) (routine : Routine Op Reply α) : routine.Within asks fails := by
  induction routine with
  | done value => exact .done value
  | fail err => exact .fail (known err)
  | panic text => exact .panic text
  | ask op next ih => exact .ask (allowed op) ih

/-- Running a routine keeps what each operation keeps that it asks for. -/
theorem Routine.Within.keeps {Op : Type} {Reply : Op → Type} {σ τ α : Type}
    {perform : (op : Op) → Proc σ (Reply op)} {view : σ → τ} {fails : Error → Prop}
    {routine : Routine Op Reply α}
    (within : routine.Within (fun op => Proc.Keeps view (perform op)) fails) :
    Proc.Keeps view (routine.run perform) := by
  induction within with
  | done value => exact fun _ => rfl
  | fail known => exact fun _ => rfl
  | panic text => exact fun _ => rfl
  | @ask op next kept _ ih =>
    intro state
    have same := kept state
    rw [Routine.run]
    generalize perform op state = result at same ⊢
    obtain ⟨outcome, mid⟩ := result
    cases outcome with
    | ok reply => exact (ih reply mid).trans same
    | error err => exact same
    | panic text => exact same

/-- What is seen of an environment by a view of the world and of the thread. -/
def Env.shows {ω τ : Type} (view : ω → ThreadId → τ) (env : Env ω) : τ :=
  view env.world env.journal.thread

section Views

variable {ω α τ : Type} {view : ω → ThreadId → τ}

/-! ## Hooks -/

namespace Hook

/-- No update that a hook asks for shows in a view. -/
abbrev Spares (view : ω → ThreadId → τ) (hook : Hook ω α) : Prop :=
  hook.Within (fun op => Proc.Keeps (Env.shows view) op.perform) fun _ => True

theorem spares_log (level : Level) (text : String) : (Hook.log level text).Spares view :=
  .ask (fun _ => rfl) .done

theorem spares_thread : Hook.thread.Spares view :=
  .ask (fun _ => rfl) .done

theorem spares_world : Hook.world.Spares view :=
  .ask (fun _ => rfl) .done

theorem spares_update {f : ω → ω}
    (unseen : ∀ world thread, view (f world) thread = view world thread) :
    (Hook.update f).Spares view :=
  .ask (fun env => unseen env.world env.journal.thread) fun _ => .done ()

theorem Spares.keeps {hook : Hook ω α} (spares : hook.Spares view) :
    Proc.Keeps (Env.shows view) hook.exec :=
  Routine.Within.keeps spares

/-- A hook stays on its thread. -/
theorem keeps_thread_exec (hook : Hook ω α) :
    Proc.Keeps (fun env => env.journal.thread) hook.exec := by
  have spares : hook.Spares fun _ thread => thread := by
    refine Routine.within_of_forall (fun op => ?_) (fun _ => trivial) hook
    cases op <;> exact fun _ => rfl
  exact spares.keeps

end Hook

/-! ## Code in an event -/

variable {κ : Type} [Payload κ]

namespace EventCode

/-- No update that code in an event asks for shows in a view. -/
abbrev Spares (view : ω → ThreadId → τ) (code : EventCode κ ω α) : Prop :=
  code.Within (fun op => ∀ hook, op = .hook hook → Proc.Keeps (Env.shows view) hook.perform)
    fun _ => True

theorem spares_single {kind : κ} (slot : SingleSlot κ kind) :
    (EventCode.single slot : EventCode κ ω _).Spares view :=
  .ask nofun .done

theorem spares_thread : (EventCode.thread : EventCode κ ω ThreadId).Spares view := by
  refine .ask (fun hook same => ?_) .done
  obtain rfl := EventOp.hook.inj same
  exact fun _ => rfl

theorem spares_update {f : ω → ω}
    (unseen : ∀ world thread, view (f world) thread = view world thread) :
    (EventCode.update f : EventCode κ ω ω).Spares view := by
  refine .ask (fun hook same => ?_) .done
  obtain rfl := EventOp.hook.inj same
  exact fun env => unseen env.world env.journal.thread

/-- Sending a message is no update. -/
theorem spares_dispatch (kind : κ) (data : Payload.Data kind) (detector : Option Detector) :
    (EventCode.dispatch kind data detector : EventCode κ ω Unit).Spares view := by
  refine .ask nofun fun message => .ask nofun fun result => ?_
  cases result with
  | ok value => exact .done value
  | error err => exact .fail trivial

end EventCode

variable [DecidableEq κ]

namespace Messenger

/-- No listener changes what a view shows. -/
def Spares (view : ω → ThreadId → τ) (messenger : Messenger κ ω) : Prop :=
  ∀ message, ∀ delegate ∈ messenger.accepting message, ∀ callback,
    delegate.kind = .listener callback → Proc.Keeps (Env.shows view) (callback message).exec

variable {messenger : Messenger κ ω}

/-- Serving a delegate changes the world by its listener only. -/
theorem Spares.serve (spares : messenger.Spares view) {message : AnyMessage κ}
    {delegate : Delegate κ ω} (accepted : delegate ∈ messenger.accepting message) :
    Proc.Keeps (fun state => state.2.shows view) (serve message delegate) := by
  rintro ⟨store, env⟩
  have called : (callListener delegate message env).2.shows view = env.shows view := by
    unfold callListener
    cases kind : delegate.kind with
    | listener callback => exact spares message delegate accepted callback kind env
    | single => rfl
    | multi => rfl
  simp only [Messenger.serve]
  generalize callListener delegate message env = result at called ⊢
  obtain ⟨outcome, left⟩ := result
  cases outcome with
  | ok value => cases store.deliver delegate message <;> exact called
  | error err => exact called
  | panic text => exact called

/-- Dispatching a message changes the world by listeners only. -/
theorem Spares.dispatch (spares : messenger.Spares view) (source : Receiver)
    (message : AnyMessage κ) :
    Proc.Keeps (fun state => state.2.shows view) (messenger.dispatch source message) := by
  unfold Messenger.dispatch
  split
  · exact (Proc.Keeps.each_of_mem fun _ accepted => spares.serve accepted).andThen fun _ =>
      Proc.Keeps.get.andThen fun _ _ => rfl
  · exact fun _ => rfl

/-- An operation that an instance asks for changes the world by its own update or by
listeners. -/
theorem Spares.perform (spares : messenger.Spares view) (receiver : Receiver)
    {op : EventOp κ ω}
    (quiet : ∀ hook, op = .hook hook → Proc.Keeps (Env.shows view) hook.perform) :
    Proc.Keeps (fun state => state.env.shows view) (op.perform messenger receiver) := by
  cases op with
  | hook hook => exact fun state => quiet hook rfl state.env
  | dispatch message =>
    intro state
    have same := spares.dispatch receiver message (state.data.store, state.env)
    simp only [EventOp.perform, EventOp.caught, EventState.onStore, Proc.zoom]
    generalize messenger.dispatch receiver message (state.data.store, state.env) = result
      at same ⊢
    obtain ⟨outcome, store, env⟩ := result
    cases outcome <;> exact same
  | _ => exact fun _ => rfl

/-- No listener leaves its thread. -/
theorem spares_thread (messenger : Messenger κ ω) :
    messenger.Spares fun _ thread => thread :=
  fun message _ _ callback _ => (callback message).keeps_thread_exec

end Messenger

namespace EventCode

variable {messenger : Messenger κ ω} {receiver : Receiver}

/-- What no update shows stays the same, if listeners leave it alone as well. -/
theorem Spares.keeps {code : EventCode κ ω α} (spares : code.Spares view)
    (unheard : messenger.Spares view) (receiver : Receiver) :
    Proc.Keeps (fun state => state.env.shows view) (code.exec messenger receiver) :=
  Routine.Within.keeps (spares.mono (fun _ quiet => unheard.perform receiver quiet) fun _ => id)

/-- Code in an event stays on its thread. -/
theorem keeps_thread_exec (messenger : Messenger κ ω) (receiver : Receiver)
    (code : EventCode κ ω α) :
    Proc.Keeps (fun state => state.env.journal.thread) (code.exec messenger receiver) := by
  have spares : code.Spares fun _ thread => thread := by
    refine Routine.within_of_forall (fun op hook _ => ?_) (fun _ => trivial) code
    cases hook <;> exact fun _ => rfl
  exact spares.keeps messenger.spares_thread receiver

end EventCode

/-! ## Calls of instances -/

namespace Instance

omit [DecidableEq κ] in
/-- The log section of a call shows in no view of the world and of the thread. -/
theorem keeps_call {hook : Hook ω Unit} (kept : Proc.Keeps (Env.shows view) hook.exec)
    (inst : Instance κ ω) (letter : String) (phase : Phase) :
    Proc.Keeps (Env.shows view) (inst.call letter phase hook.exec) :=
  fun _ => kept _

/-- What the code of an instance keeps is kept when an event is offered to it. -/
theorem keeps_runEvent {inst : Instance κ ω} {messenger : Messenger κ ω}
    (kept : Proc.Keeps (fun state => state.env.shows view)
      (inst.module.run.exec messenger inst.receiver)) :
    Proc.Keeps (fun state => state.env.shows view) (inst.runEvent messenger) := by
  have called : Proc.Keeps (fun state => state.env.shows view) (inst.called messenger) := by
    refine Proc.Keeps.andThen (fun state => ?_) fun _ => .done true
    exact kept _
  intro state
  by_cases missing : messenger.missingRequired inst.receiver.id state.data.store = []
  · rw [runEvent_of_missing_eq_nil missing]
    exact called state
  · obtain ⟨text, skipped⟩ := exists_of_missing_ne_nil missing
    rw [skipped]
    rfl

/-- An event as the code of an instance gets it, in the log section of the call. -/
def entered (inst : Instance κ ω) (state : EventState κ ω) : EventState κ ω :=
  HasJournal.withJournal ((HasJournal.journal state).enter ("R" ++ ":" ++ inst.name)).2 state

omit [DecidableEq κ] in
/-- When a call has ended well, so has what was called, in the log section of the call. -/
theorem exists_of_call_ok {σ β : Type} [HasJournal σ] {inst : Instance κ ω} {letter : String}
    {phase : Phase} {proc : Proc σ β} {state after : σ} {value : β}
    (called : inst.call letter phase proc state = (.ok value, after)) :
    ∃ journal ended, proc (HasJournal.withJournal
        ((HasJournal.journal state).enter (letter ++ ":" ++ inst.name)).2 state)
        = (.ok value, ended) ∧ after = HasJournal.withJournal journal ended := by
  simp only [call, Proc.within, Proc.mapError] at called
  generalize (HasJournal.journal state).enter _ = entered at called ⊢
  generalize proc (HasJournal.withJournal entered.2 state) = result at called ⊢
  obtain ⟨outcome, ended⟩ := result
  obtain ⟨outcome_eq, rfl⟩ := Prod.mk.inj called
  cases outcome with
  | ok other =>
    obtain rfl := Outcome.ok.inj outcome_eq
    exact ⟨_, ended, rfl, rfl⟩
  | error err => cases outcome_eq
  | panic text => cases outcome_eq

/-- When an instance has run well, so has its code. -/
theorem exists_exec_of_called {inst : Instance κ ω} {messenger : Messenger κ ω}
    {state after : EventState κ ω} {ran : Bool}
    (called : inst.called messenger state = (.ok ran, after)) :
    ∃ ended, inst.module.run.exec messenger inst.receiver (inst.entered state) = (.ok (), ended) ∧
      after.env.world = ended.env.world := by
  obtain ⟨⟨⟩, mid, calls, rest⟩ := Proc.andThen_eq_ok.mp called
  obtain ⟨-, rfl⟩ := Prod.mk.inj rest
  obtain ⟨journal, ended, ran, rfl⟩ := exists_of_call_ok calls
  exact ⟨ended, ran, rfl⟩

/-- What an instance that runs shows is what its code shows. -/
theorem sights_of_missing_eq_nil {inst : Instance κ ω} {messenger : Messenger κ ω}
    {state : EventState κ ω}
    (none_missing : messenger.missingRequired inst.receiver.id state.data.store = []) :
    inst.sights messenger state
      = inst.module.run.sights messenger inst.receiver (inst.entered state) := by
  unfold sights
  rw [none_missing]
  rfl

theorem sights_of_missing_ne_nil {inst : Instance κ ω} {messenger : Messenger κ ω}
    {state : EventState κ ω}
    (missing : messenger.missingRequired inst.receiver.id state.data.store ≠ []) :
    inst.sights messenger state = [] := by
  unfold sights
  split
  · next none_missing => exact absurd none_missing missing
  · rfl

theorem keeps_thread_runEvent (inst : Instance κ ω) (messenger : Messenger κ ω) :
    Proc.Keeps (fun state => state.env.journal.thread) (inst.runEvent messenger) := by
  have kept : Proc.Keeps (fun state => state.env.shows fun _ thread => thread)
      (inst.module.run.exec messenger inst.receiver) :=
    inst.module.run.keeps_thread_exec messenger inst.receiver
  exact keeps_runEvent kept

end Instance

end Views

end DetectorSim
