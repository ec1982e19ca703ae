import DetectorSim.Module.Instance
import DetectorSim.Proofs.Messaging.Delivery

/-!
# Nobody reads the log

Code of a module writes to the log, but nothing that it can ask for tells it what the log
holds or which section it is in.  So two runs from states that differ in the log alone end
in the same way, in states that differ in the log alone, and send the same messages to the
same listeners.
-/

set_option autoImplicit false

namespace DetectorSim

/-! ## States without their log -/

/-- A log that is put into a state is there, and nothing of the one before is. -/
class LawfulJournal (σ : Type) [HasJournal σ] : Prop where
  journal_withJournal (journal : Journal) (state : σ) :
    HasJournal.journal (HasJournal.withJournal journal state) = journal
  withJournal_withJournal (journal other : Journal) (state : σ) :
    HasJournal.withJournal journal (HasJournal.withJournal other state)
      = HasJournal.withJournal journal state

instance {ω : Type} : LawfulJournal (Env ω) where
  journal_withJournal _ _ := rfl
  withJournal_withJournal _ _ _ := rfl

instance {κ ω : Type} [Payload κ] : LawfulJournal (EventState κ ω) where
  journal_withJournal _ _ := rfl
  withJournal_withJournal _ _ _ := rfl

instance {σ τ : Type} [HasJournal τ] [LawfulJournal τ] : LawfulJournal (σ × τ) where
  journal_withJournal journal state := LawfulJournal.journal_withJournal journal state.2
  withJournal_withJournal journal other state :=
    congrArg (Prod.mk state.1) (LawfulJournal.withJournal_withJournal journal other state.2)

section Unlogged

variable {σ τ : Type} [HasJournal σ]

/-- A state on the same thread with an empty log. -/
def unlogged (state : σ) : σ :=
  HasJournal.withJournal ⟨(HasJournal.journal state).thread, .none, []⟩ state

theorem unlogged_pair (a : τ) (state : σ) : unlogged (a, state) = (a, unlogged state) := rfl

/-- What is done to the log on its thread does not show. -/
theorem unlogged_withJournal [LawfulJournal σ] (journal : Journal) (state : σ)
    (thread : journal.thread = (HasJournal.journal state).thread) :
    unlogged (HasJournal.withJournal journal state) = unlogged state := by
  unfold unlogged
  rw [LawfulJournal.journal_withJournal, LawfulJournal.withJournal_withJournal, thread]

theorem unlogged_enter [LawfulJournal σ] (name : String) (state : σ) :
    unlogged (HasJournal.withJournal ((HasJournal.journal state).enter name).2 state)
      = unlogged state :=
  unlogged_withJournal ((HasJournal.journal state).enter name).2 state rfl

theorem unlogged_leave [LawfulJournal σ] (guard : SectionGuard) (state : σ) :
    unlogged (HasJournal.withJournal ((HasJournal.journal state).leave guard) state)
      = unlogged state :=
  unlogged_withJournal ((HasJournal.journal state).leave guard) state rfl

theorem unlogged_log [LawfulJournal σ] (level : Level) (text : String) (state : σ) :
    unlogged (Proc.log level text state).2 = unlogged state :=
  unlogged_withJournal ((HasJournal.journal state).write level text) state rfl

theorem thread_eq_of_unlogged_eq [LawfulJournal σ] {state state' : σ}
    (like : unlogged state = unlogged state') :
    (HasJournal.journal state).thread = (HasJournal.journal state').thread := by
  have same := congrArg (fun state => (HasJournal.journal state).thread) like
  simpa only [unlogged, LawfulJournal.journal_withJournal] using same

/-- States that differ in the log alone do so on any thread. -/
theorem unlogged_moved [LawfulJournal σ] (thread : ThreadId) {state state' : σ}
    (like : unlogged state = unlogged state') :
    unlogged (HasJournal.withJournal { HasJournal.journal state with thread } state)
      = unlogged (HasJournal.withJournal { HasJournal.journal state' with thread } state') := by
  have moved := congrArg (HasJournal.withJournal ⟨thread, .none, []⟩) like
  simpa only [unlogged, LawfulJournal.journal_withJournal,
    LawfulJournal.withJournal_withJournal] using moved

end Unlogged

theorem Env.unlogged_eq_iff {ω : Type} {env env' : Env ω} :
    unlogged env = unlogged env' ↔
      env.world = env'.world ∧ env.journal.thread = env'.journal.thread := by
  obtain ⟨world, journal⟩ := env
  obtain ⟨world', journal'⟩ := env'
  simp [unlogged, HasJournal.withJournal, HasJournal.journal]

theorem EventState.unlogged_eq_iff {κ ω : Type} [Payload κ] {state state' : EventState κ ω} :
    unlogged state = unlogged state' ↔
      state.data = state'.data ∧ unlogged state.env = unlogged state'.env := by
  obtain ⟨data, env⟩ := state
  obtain ⟨data', env'⟩ := state'
  simp [unlogged, HasJournal.withJournal, HasJournal.journal]

theorem unlogged_pair_eq_iff {σ τ : Type} [HasJournal σ] {a b : τ} {state state' : σ} :
    unlogged (a, state) = unlogged (b, state') ↔ a = b ∧ unlogged state = unlogged state' := by
  rw [unlogged_pair, unlogged_pair, Prod.mk.injEq]

/-! ## Procedures that agree but for the log -/

/-- A routine that asks goes on with the reply. -/
theorem Routine.run_ask {Op : Type} {Reply : Op → Type} {σ α : Type}
    (perform : (op : Op) → Proc σ (Reply op)) (op : Op)
    (next : Reply op → Routine Op Reply α) :
    (Routine.ask op next).run perform
      = Proc.andThen (perform op) fun reply => (next reply).run perform := by
  funext state
  rcases ran : perform op state with ⟨_ | _ | _, after⟩ <;>
    simp only [Routine.run, Proc.andThen, ran]

namespace Proc

variable {σ α β : Type} [HasJournal σ]

/-- From states that differ in the log alone, two procedures end in the same way and leave
states that differ in the log alone. -/
def Same (first second : Proc σ α) : Prop :=
  ∀ state state', unlogged state = unlogged state' →
    (first state).1 = (second state').1 ∧
      unlogged (first state).2 = unlogged (second state').2

/-- What is told of the state that a procedure has left, if it has ended well. -/
def thereafter (proc : Proc σ α) (told : α → σ → List β) (state : σ) : List β :=
  match proc state with
  | (.ok a, after) => told a after
  | _ => []

namespace Same

variable {first second : Proc σ α}

theorem exists_ran (same : Same first second) {state state' after : σ} {outcome : Outcome α}
    (like : unlogged state = unlogged state') (ran : first state = (outcome, after)) :
    ∃ after', second state' = (outcome, after') ∧ unlogged after = unlogged after' := by
  obtain ⟨ends, left⟩ := same state state' like
  rw [ran] at ends left
  exact ⟨(second state').2, Prod.ext ends.symm rfl, left⟩

theorem done (a : α) : Same (done a : Proc σ α) (Proc.done a) :=
  fun _ _ like => ⟨rfl, like⟩

theorem andThen {next next' : α → Proc σ β} (same : Same first second)
    (rest : ∀ a, Same (next a) (next' a)) :
    Same (andThen first next) (Proc.andThen second next') := by
  intro state state' like
  rcases ran : first state with ⟨outcome, after⟩
  obtain ⟨after', ran', left⟩ := same.exists_ran like ran
  simp only [Proc.andThen, ran, ran']
  cases outcome with
  | ok a => exact rest a after after' left
  | error err => exact ⟨rfl, left⟩
  | panic text => exact ⟨rfl, left⟩

/-- If the same is told of states that differ in the log alone, the same is told after both
procedures. -/
theorem thereafter {told told' : α → σ → List β} (same : Same first second)
    (rest : ∀ a after after', unlogged after = unlogged after' →
      told a after = told' a after') {state state' : σ}
    (like : unlogged state = unlogged state') :
    thereafter first told state = Proc.thereafter second told' state' := by
  rcases ran : first state with ⟨outcome, after⟩
  obtain ⟨after', ran', left⟩ := same.exists_ran like ran
  simp only [Proc.thereafter, ran, ran']
  cases outcome with
  | ok a => exact rest a after after' left
  | error err => rfl
  | panic text => rfl

theorem each {f : β → Proc σ Unit} (same : ∀ b, Same (f b) (f b)) (items : List β) :
    Same (each f items) (Proc.each f items) := by
  induction items with
  | nil => exact done ()
  | cons b rest ih => exact (same b).andThen fun _ => ih

theorem mapError (same : Same first second) (f : Error → Error) :
    Same (mapError f first) (Proc.mapError f second) := fun state state' like =>
  ⟨congrArg (Outcome.mapError f) (same state state' like).1, (same state state' like).2⟩

theorem caught {first second : Proc σ Unit} (same : Same first second) :
    Same (EventOp.caught first) (EventOp.caught second) := by
  intro state state' like
  rcases ran : first state with ⟨outcome, after⟩
  obtain ⟨after', ran', left⟩ := same.exists_ran like ran
  simp only [EventOp.caught, ran, ran']
  cases outcome <;> exact ⟨rfl, left⟩

variable [LawfulJournal σ]

theorem log (level other : Level) (text said : String) :
    Same (log level text : Proc σ Unit) (Proc.log other said) := fun _ _ like =>
  ⟨rfl, (unlogged_log _ _ _).trans (like.trans (unlogged_log _ _ _).symm)⟩

/-- In which section a procedure runs does not show. -/
theorem within (same : Same first second) (name other : String) :
    Same (within name first) (Proc.within other second) := by
  intro state state' like
  obtain ⟨ends, left⟩ := same _ _
    ((unlogged_enter name state).trans (like.trans (unlogged_enter other state').symm))
  exact ⟨ends, (unlogged_leave _ _).trans (left.trans (unlogged_leave _ _).symm)⟩

/-- On a given thread there is the same to see on both sides. -/
theorem onThread (same : Same first second) (thread : ThreadId) :
    Same (onThread thread first) (Proc.onThread thread second) := by
  intro state state' like
  have home := thread_eq_of_unlogged_eq like
  obtain ⟨ends, left⟩ := same _ _ (unlogged_moved thread like)
  refine ⟨ends, ?_⟩
  unfold Proc.onThread
  simp only [home]
  exact unlogged_moved _ left

end Same

/-- A routine agrees with itself if all operations that it may ask for do. -/
theorem Same.routine {Op : Type} {Reply : Op → Type} {perform : (op : Op) → Proc σ (Reply op)}
    (same : ∀ op, Same (perform op) (perform op)) (routine : Routine Op Reply α) :
    Same (routine.run perform) (routine.run perform) := by
  induction routine with
  | done value => exact fun _ _ like => ⟨rfl, like⟩
  | fail err => exact fun _ _ like => ⟨rfl, like⟩
  | panic text => exact fun _ _ like => ⟨rfl, like⟩
  | ask op next ih =>
    rw [Routine.run_ask]
    exact (same op).andThen ih

/-- What is picked from the turns of a sequence does not depend on the log, if that is so
for each turn. -/
theorem filterMap_turns_eq {γ : Type} {f : β → Proc σ Unit} (same : ∀ b, Same (f b) (f b))
    (pick : β → σ → Option γ)
    (picks : ∀ b {state state'}, unlogged state = unlogged state' → pick b state = pick b state')
    {items : List β} {state state' : σ} (like : unlogged state = unlogged state') :
    ((turns f items state).filterMap fun turn => pick turn.1 turn.2)
      = (turns f items state').filterMap fun turn => pick turn.1 turn.2 := by
  induction items generalizing state state' with
  | nil => rfl
  | cons b rest ih =>
    rcases ran : f b state with ⟨outcome, after⟩
    obtain ⟨after', ran', left⟩ := (same b).exists_ran like ran
    simp only [turns, ran, ran', List.filterMap_cons, picks b like]
    cases outcome with
    | ok value => simp only [ih left]
    | error err => rfl
    | panic text => rfl

end Proc

/-! ## Hooks and dispatches -/

section Code

variable {κ ω α : Type} [Payload κ]

theorem HookOp.same_perform (op : HookOp ω) : Proc.Same op.perform op.perform := by
  cases op with
  | log level text => exact .log level level text text
  | update f =>
    intro env env' like
    obtain ⟨world, thread⟩ := Env.unlogged_eq_iff.mp like
    exact ⟨congrArg Outcome.ok world, Env.unlogged_eq_iff.mpr ⟨congrArg f world, thread⟩⟩
  | thread =>
    intro env env' like
    exact ⟨congrArg Outcome.ok (Env.unlogged_eq_iff.mp like).2, like⟩

theorem Hook.same_exec (hook : Hook ω α) : Proc.Same hook.exec hook.exec :=
  .routine HookOp.same_perform hook

namespace Messenger

theorem same_callListener (delegate : Delegate κ ω) (message : AnyMessage κ) :
    Proc.Same (callListener delegate message) (callListener delegate message) := by
  unfold callListener
  cases delegate.kind with
  | listener callback => exact (Hook.same_exec _).mapError _
  | single => exact .done ()
  | multi => exact .done ()

theorem same_serve (message : AnyMessage κ) (delegate : Delegate κ ω) :
    Proc.Same (serve message delegate) (serve message delegate) := by
  rintro ⟨store, env⟩ ⟨store', env'⟩ like
  obtain ⟨rfl, env_like⟩ := unlogged_pair_eq_iff.mp like
  rcases ran : callListener delegate message env with ⟨outcome, left⟩
  obtain ⟨left', ran', same⟩ := (same_callListener delegate message).exists_ran env_like ran
  simp only [serve, ran, ran']
  cases outcome with
  | ok value =>
    cases store.deliver delegate message with
    | ok after => exact ⟨rfl, unlogged_pair_eq_iff.mpr ⟨rfl, same⟩⟩
    | error err => exact ⟨rfl, unlogged_pair_eq_iff.mpr ⟨rfl, same⟩⟩
  | error err => exact ⟨rfl, unlogged_pair_eq_iff.mpr ⟨rfl, same⟩⟩
  | panic text => exact ⟨rfl, unlogged_pair_eq_iff.mpr ⟨rfl, same⟩⟩

variable [DecidableEq κ]

theorem same_dispatch (messenger : Messenger κ ω) (source : Receiver) (message : AnyMessage κ) :
    Proc.Same (messenger.dispatch source message) (messenger.dispatch source message) := by
  unfold dispatch
  split
  · refine (Proc.Same.each (same_serve message) _).andThen fun _ => ?_
    exact fun state state' like => Proc.Same.log _ _ _ _ state state' like
  · exact .log _ _ _ _

/-- Which listeners are called, and how their calls end, does not depend on the log. -/
theorem callsOf_eq (messenger : Messenger κ ω) (message : AnyMessage κ)
    {state state' : MessageStore κ × Env ω} (like : unlogged state = unlogged state') :
    messenger.callsOf message state = messenger.callsOf message state' := by
  refine Proc.filterMap_turns_eq (same_serve message)
    (fun delegate state => callOf? message delegate state.2) ?_ like
  intro delegate before before' alike
  unfold callOf?
  refine Option.map_congr fun hook _ => ?_
  rw [((Hook.same_exec hook) _ _ (unlogged_pair_eq_iff.mp alike).2).1]

end Messenger

/-! ## Code in an event -/

namespace EventState

theorem same_onEnv {first second : Proc (Env ω) α} (same : Proc.Same first second) :
    Proc.Same (onEnv first : Proc (EventState κ ω) α) (onEnv second) := by
  intro state state' like
  obtain ⟨data, env_like⟩ := unlogged_eq_iff.mp like
  obtain ⟨ends, left⟩ := same _ _ env_like
  exact ⟨ends, unlogged_eq_iff.mpr ⟨data, left⟩⟩

theorem same_onStore {first second : Proc (MessageStore κ × Env ω) α}
    (same : Proc.Same first second) : Proc.Same (onStore first) (onStore second) := by
  rintro ⟨data, env⟩ ⟨data', env'⟩ like
  obtain ⟨rfl, env_like⟩ := unlogged_eq_iff.mp like
  obtain ⟨ends, left⟩ := same (data.store, env) (data.store, env')
    (unlogged_pair_eq_iff.mpr ⟨rfl, env_like⟩)
  obtain ⟨store, env_left⟩ := unlogged_pair_eq_iff.mp left
  refine ⟨ends, unlogged_eq_iff.mpr ⟨?_, env_left⟩⟩
  exact congrArg (fun store => { data with store }) store

end EventState

variable [DecidableEq κ]

theorem EventOp.same_perform (messenger : Messenger κ ω) (receiver : Receiver)
    (op : EventOp κ ω) :
    Proc.Same (op.perform messenger receiver) (op.perform messenger receiver) := by
  have reading {β : Type} (f : EventData κ → β) :
      Proc.Same (fun state : EventState κ ω => (.ok (f state.data), state))
        fun state => (.ok (f state.data), state) := fun state state' like =>
    ⟨congrArg (fun data => Outcome.ok (f data)) (EventState.unlogged_eq_iff.mp like).1, like⟩
  cases op with
  | hook op => exact EventState.same_onEnv op.same_perform
  | number => exact reading fun data => data.store.event
  | single kind slot => exact reading fun data => data.store.single slot
  | multi kind slot => exact reading fun data => data.store.multi slot
  | compose kind payload detector =>
    rintro ⟨data, env⟩ ⟨data', env'⟩ like
    obtain ⟨rfl, env_like⟩ := EventState.unlogged_eq_iff.mp like
    exact ⟨rfl, EventState.unlogged_eq_iff.mpr ⟨rfl, env_like⟩⟩
  | hasReceiver message => exact (Proc.Same.log _ _ _ _).andThen fun _ => .done _
  | dispatch message => exact (EventState.same_onStore (messenger.same_dispatch _ _)).caught
  | draw =>
    rintro ⟨data, env⟩ ⟨data', env'⟩ like
    obtain ⟨rfl, env_like⟩ := EventState.unlogged_eq_iff.mp like
    exact ⟨rfl, EventState.unlogged_eq_iff.mpr ⟨rfl, env_like⟩⟩

end Code
end DetectorSim
