import DetectorSim.Proofs.Pool.History

/-!
# Independent instances

Instances are independent if each keeps a state of its own in the world that the
others leave alone, and if what it does in an event is a function of the event
and of that state.  The own state of an instance is given by a view of the world;
what nobody's view shows may be different from run to run.
-/

set_option autoImplicit false

namespace DetectorSim

variable {κ ω α : Type} [Payload κ] {σ : Nat → Type}

/-! ## Views of the world -/

/-- An operation of a hook changes nobody's own state. -/
def HookOp.isQuiet (own : (i : Nat) → ω → σ i) : HookOp ω → Prop
  | .update f => ∀ j world, own j (f world) = own j world
  | _ => True

/-- A hook that always ends in the same way and changes nobody's own state. -/
structure Hook.Steady (own : (i : Nat) → ω → σ i) (hook : Hook ω α) (outcome : Outcome α) :
    Prop where
  ends : ∀ env, (hook.exec env).1 = outcome
  keeps : ∀ env j, own j (hook.exec env).2.world = own j env.world

/-- The result of each listener depends on the message only. -/
def Messenger.IsSteady [DecidableEq κ] (own : (i : Nat) → ω → σ i)
    (messenger : Messenger κ ω) : Prop :=
  ∀ message, ∀ delegate ∈ messenger.accepting message, ∀ callback,
    delegate.kind = .listener callback → ∃ outcome, (callback message).Steady own outcome

/-! ## Dispatching -/

section Dispatching

variable [DecidableEq κ] {own : (i : Nat) → ω → σ i} {messenger : Messenger κ ω}

/-- Giving a message to a delegate depends on the store only. -/
theorem Messenger.serve_agrees (steady : messenger.IsSteady own) {message : AnyMessage κ}
    {delegate : Delegate κ ω} (accepted : delegate ∈ messenger.accepting message)
    (store : MessageStore κ) (env env' : Env ω) :
    (serve message delegate (store, env)).1 = (serve message delegate (store, env')).1 ∧
      (serve message delegate (store, env)).2.1 = (serve message delegate (store, env')).2.1 ∧
      ∀ j, own j (serve message delegate (store, env)).2.2.world = own j env.world := by
  have called : (callListener delegate message env).1 = (callListener delegate message env').1 ∧
      ∀ j, own j (callListener delegate message env).2.world = own j env.world := by
    unfold callListener
    cases kind : delegate.kind with
    | single => exact ⟨rfl, fun _ => rfl⟩
    | multi => exact ⟨rfl, fun _ => rfl⟩
    | listener callback =>
      obtain ⟨outcome, ends, keeps⟩ := steady message delegate accepted callback kind
      simp only [Proc.mapError, ends]
      exact ⟨trivial, keeps env⟩
  simp only [serve]
  generalize callListener delegate message env = result at called ⊢
  generalize callListener delegate message env' = result' at called ⊢
  obtain ⟨outcome, after⟩ := result
  obtain ⟨outcome', after'⟩ := result'
  obtain ⟨rfl, kept⟩ := called
  cases outcome with
  | ok value => cases store.deliver delegate message <;> exact ⟨rfl, rfl, kept⟩
  | error err => exact ⟨rfl, rfl, kept⟩
  | panic text => exact ⟨rfl, rfl, kept⟩

/-- Giving a message to some delegates depends on the store only. -/
theorem Messenger.serve_each_agrees (steady : messenger.IsSteady own)
    {message : AnyMessage κ} {delegates : List (Delegate κ ω)}
    (accepted : ∀ delegate ∈ delegates, delegate ∈ messenger.accepting message)
    (store : MessageStore κ) (env env' : Env ω) :
    (Proc.each (serve message) delegates (store, env)).1
        = (Proc.each (serve message) delegates (store, env')).1 ∧
      (Proc.each (serve message) delegates (store, env)).2.1
        = (Proc.each (serve message) delegates (store, env')).2.1 ∧
      ∀ j, own j (Proc.each (serve message) delegates (store, env)).2.2.world
        = own j env.world := by
  induction delegates generalizing store env env' with
  | nil => exact ⟨rfl, rfl, fun _ => rfl⟩
  | cons delegate rest ih =>
    obtain ⟨outcome_eq, store_eq, kept⟩ :=
      serve_agrees steady (accepted delegate List.mem_cons_self) store env env'
    simp only [Proc.each, Proc.andThen]
    generalize serve message delegate (store, env) = result at outcome_eq store_eq kept ⊢
    generalize serve message delegate (store, env') = result' at outcome_eq store_eq ⊢
    obtain ⟨outcome, after, env₁⟩ := result
    obtain ⟨outcome', after', env₁'⟩ := result'
    obtain rfl : outcome = outcome' := outcome_eq
    obtain rfl : after = after' := store_eq
    cases outcome with
    | ok value =>
      obtain ⟨outcome_eq, store_eq, kept'⟩ :=
        ih (fun delegate member => accepted delegate (List.mem_cons_of_mem _ member))
          after env₁ env₁'
      exact ⟨outcome_eq, store_eq, fun j => (kept' j).trans (kept j)⟩
    | error err => exact ⟨rfl, rfl, kept⟩
    | panic text => exact ⟨rfl, rfl, kept⟩

/-- Dispatching a message depends on the store only. -/
theorem Messenger.dispatch_agrees (steady : messenger.IsSteady own) (source : Receiver)
    (message : AnyMessage κ) (store : MessageStore κ) (env env' : Env ω) :
    (messenger.dispatch source message (store, env)).1
        = (messenger.dispatch source message (store, env')).1 ∧
      (messenger.dispatch source message (store, env)).2.1
        = (messenger.dispatch source message (store, env')).2.1 ∧
      ∀ j, own j (messenger.dispatch source message (store, env)).2.2.world
        = own j env.world := by
  unfold dispatch
  split
  · obtain ⟨outcome_eq, store_eq, kept⟩ :=
      serve_each_agrees steady (fun _ member => member) store env env'
    simp only [Proc.bind_apply, Proc.andThen]
    generalize Proc.each (serve message) (messenger.accepting message) (store, env) = result
      at outcome_eq store_eq kept ⊢
    generalize Proc.each (serve message) (messenger.accepting message) (store, env') = result'
      at outcome_eq store_eq ⊢
    obtain ⟨outcome, after, env₁⟩ := result
    obtain ⟨outcome', after', env₁'⟩ := result'
    obtain rfl : outcome = outcome' := outcome_eq
    obtain rfl : after = after' := store_eq
    cases outcome <;> exact ⟨rfl, rfl, kept⟩
  · exact ⟨rfl, rfl, fun _ => rfl⟩

end Dispatching

/-! ## Running code in an event -/

/-- Two states of an event that the instance with an index can not tell apart. -/
structure EventState.Agrees (own : (i : Nat) → ω → σ i) (index : Nat)
    (state state' : EventState κ ω) : Prop where
  data_eq : state.data = state'.data
  own_eq : own index state.env.world = own index state'.env.world

/-- Everybody's own state is left alone, but for that of the instance with an
index. -/
def EventState.Frames (own : (i : Nat) → ω → σ i) (index : Nat)
    (before after : EventState κ ω) : Prop :=
  ∀ j, j ≠ index → own j after.env.world = own j before.env.world

/-- Two runs of the instance with an index that it can not tell apart.  They end in
the same way, with the same event and the same own state; the instance sees and
does the same; and nobody else's own state changes. -/
structure EventCode.RunsAlike [DecidableEq κ] (own : (i : Nat) → ω → σ i) (index : Nat)
    (messenger : Messenger κ ω) (receiver : Receiver) (code code' : EventCode κ ω α)
    (state state' : EventState κ ω) : Prop where
  outcome_eq : (code.exec messenger receiver state).1 = (code'.exec messenger receiver state').1
  after : (code.exec messenger receiver state).2.Agrees own index
    (code'.exec messenger receiver state').2
  sights_eq : code.sights messenger receiver state = code'.sights messenger receiver state'
  frames : state.Frames own index (code.exec messenger receiver state).2

/-- The code of the instance with an index is a function of the event and of the
own state of the instance, if listeners are functions of their messages. -/
def EventCode.IsConfined [DecidableEq κ] (own : (i : Nat) → ω → σ i) (index : Nat)
    (code : EventCode κ ω α) : Prop :=
  ∀ (messenger : Messenger κ ω), messenger.IsSteady own → ∀ (receiver : Receiver)
    {state state' : EventState κ ω}, state.Agrees own index state' →
      EventCode.RunsAlike own index messenger receiver code code state state'

/-- Two pieces of code of the instance with an index go side by side from one
operation on the event to the next one.  In between, each may do what nobody's own
state shows, and both may change the own state of the instance in the same way. -/
inductive EventCode.Alike (own : (i : Nat) → ω → σ i) (index : Nat) :
    EventCode κ ω α → EventCode κ ω α → Prop where
  | done (value : α) : Alike own index (.done value) (.done value)
  | fail (err : Error) : Alike own index (.fail err) (.fail err)
  | panic (text : String) : Alike own index (.panic text) (.panic text)
  | event {op : EventOp κ ω} (apart : ∀ hook, op ≠ .hook hook)
      {next next' : op.Reply → EventCode κ ω α}
      (rest : ∀ reply, Alike own index (next reply) (next' reply)) :
      Alike own index (.ask op next) (.ask op next')
  | left {op : HookOp ω} (quiet : op.isQuiet own)
      {next : (EventOp.hook op : EventOp κ ω).Reply → EventCode κ ω α}
      {code : EventCode κ ω α} (rest : ∀ reply, Alike own index (next reply) code) :
      Alike own index (.ask (.hook op) next) code
  | right {op : HookOp ω} (quiet : op.isQuiet own)
      {next : (EventOp.hook op : EventOp κ ω).Reply → EventCode κ ω α}
      {code : EventCode κ ω α} (rest : ∀ reply, Alike own index code (next reply)) :
      Alike own index code (.ask (.hook op) next)
  | update {f f' : ω → ω}
      (same : ∀ world world', own index world = own index world' →
        own index (f world) = own index (f' world'))
      (frame : ∀ j, j ≠ index → ∀ world, own j (f world) = own j world)
      (frame' : ∀ j, j ≠ index → ∀ world, own j (f' world) = own j world)
      {next next' : ω → EventCode κ ω α}
      (rest : ∀ world world', own index world = own index world' →
        Alike own index (next world) (next' world')) :
      Alike own index (.ask (.hook (.update f)) next) (.ask (.hook (.update f')) next')

section Running

variable [DecidableEq κ] {own : (i : Nat) → ω → σ i} {messenger : Messenger κ ω}
  {receiver : Receiver} {index : Nat}

/-- An operation on the event has the same reply for the same event, and changes
nobody's own state. -/
theorem EventOp.perform_agrees (steady : messenger.IsSteady own) (receiver : Receiver)
    {op : EventOp κ ω} (apart : ∀ hook, op ≠ .hook hook) {state state' : EventState κ ω}
    (data_eq : state.data = state'.data) :
    (op.perform messenger receiver state).1 = (op.perform messenger receiver state').1 ∧
      (op.perform messenger receiver state).2.data
        = (op.perform messenger receiver state').2.data ∧
      ∀ j, own j (op.perform messenger receiver state).2.env.world
        = own j state.env.world := by
  obtain ⟨data, env⟩ := state
  obtain ⟨data', env'⟩ := state'
  obtain rfl : data = data' := data_eq
  cases op with
  | hook op => exact absurd rfl (apart op)
  | number => exact ⟨rfl, rfl, fun _ => rfl⟩
  | single kind slot => exact ⟨rfl, rfl, fun _ => rfl⟩
  | multi kind slot => exact ⟨rfl, rfl, fun _ => rfl⟩
  | compose kind payload detector => exact ⟨rfl, rfl, fun _ => rfl⟩
  | hasReceiver message => exact ⟨rfl, rfl, fun _ => rfl⟩
  | draw => exact ⟨rfl, rfl, fun _ => rfl⟩
  | dispatch message =>
    obtain ⟨outcome_eq, store_eq, kept⟩ :=
      Messenger.dispatch_agrees steady receiver message data.store env env'
    simp only [perform, caught, EventState.onStore, Proc.zoom]
    generalize messenger.dispatch receiver message (data.store, env) = result
      at outcome_eq store_eq kept ⊢
    generalize messenger.dispatch receiver message (data.store, env') = result'
      at outcome_eq store_eq ⊢
    obtain ⟨outcome, after, env₁⟩ := result
    obtain ⟨outcome', after', env₁'⟩ := result'
    obtain rfl : outcome = outcome' := outcome_eq
    obtain rfl : after = after' := store_eq
    cases outcome <;> exact ⟨rfl, rfl, kept⟩

/-- A quiet operation of a hook ends well and leaves the event alone. -/
theorem EventOp.perform_quiet (messenger : Messenger κ ω) (receiver : Receiver)
    {op : HookOp ω} (quiet : op.isQuiet own) (state : EventState κ ω) :
    ∃ reply after,
      (EventOp.hook op : EventOp κ ω).perform messenger receiver state = (.ok reply, after) ∧
        after.data = state.data ∧ ∀ j, own j after.env.world = own j state.env.world := by
  cases op with
  | log level text => exact ⟨_, _, rfl, rfl, fun _ => rfl⟩
  | update f => exact ⟨_, _, rfl, rfl, fun j => quiet j _⟩
  | thread => exact ⟨_, _, rfl, rfl, fun _ => rfl⟩

/-- Code goes on with the reply of an operation that ends well. -/
theorem EventCode.exec_ask {op : EventOp κ ω} {next : op.Reply → EventCode κ ω α}
    {state after : EventState κ ω} {reply : op.Reply}
    (performed : op.perform messenger receiver state = (.ok reply, after)) :
    EventCode.exec messenger receiver (.ask op next) state
      = EventCode.exec messenger receiver (next reply) after := by
  simp only [exec, Routine.run, performed]

theorem EventCode.sights_ask {op : EventOp κ ω} {next : op.Reply → EventCode κ ω α}
    {state after : EventState κ ω} {reply : op.Reply}
    (performed : op.perform messenger receiver state = (.ok reply, after)) :
    EventCode.sights messenger receiver (.ask op next) state
      = op.sights reply ++ EventCode.sights messenger receiver (next reply) after := by
  simp only [sights, performed]

/-- Two runs are compared by what they come to. -/
theorem EventCode.RunsAlike.of_exec {code code' : EventCode κ ω α}
    {state state' : EventState κ ω} {result result' : Outcome α × EventState κ ω}
    (exec_eq : code.exec messenger receiver state = result)
    (exec_eq' : code'.exec messenger receiver state' = result')
    (outcome_eq : result.1 = result'.1) (after : result.2.Agrees own index result'.2)
    (sights_eq : code.sights messenger receiver state = code'.sights messenger receiver state')
    (frames : state.Frames own index result.2) :
    RunsAlike own index messenger receiver code code' state state' := by
  subst exec_eq exec_eq'
  exact ⟨outcome_eq, after, sights_eq, frames⟩

/-- Code that is alike runs alike. -/
theorem EventCode.Alike.runsAlike (steady : messenger.IsSteady own)
    {code code' : EventCode κ ω α} (alike : Alike own index code code')
    {state state' : EventState κ ω} (agrees : state.Agrees own index state') :
    RunsAlike own index messenger receiver code code' state state' := by
  induction alike generalizing state state' with
  | done value => exact ⟨rfl, agrees, rfl, fun _ _ => rfl⟩
  | fail err => exact ⟨rfl, agrees, rfl, fun _ _ => rfl⟩
  | panic text => exact ⟨rfl, agrees, rfl, fun _ _ => rfl⟩
  | @event op apart next next' rest ih =>
    obtain ⟨outcome_eq, data_eq, kept⟩ :=
      EventOp.perform_agrees steady receiver apart agrees.data_eq
    obtain ⟨-, -, kept'⟩ :=
      EventOp.perform_agrees steady receiver apart agrees.data_eq.symm
    have own_eq := (kept index).trans (agrees.own_eq.trans (kept' index).symm)
    generalize performed : op.perform messenger receiver state = result
      at outcome_eq data_eq kept own_eq
    generalize performed' : op.perform messenger receiver state' = result'
      at outcome_eq data_eq own_eq
    obtain ⟨outcome, after⟩ := result
    obtain ⟨outcome', after'⟩ := result'
    obtain rfl : outcome = outcome' := outcome_eq
    cases outcome with
    | ok reply =>
      obtain ⟨ends, agrees', sights_eq, frames⟩ := ih reply ⟨data_eq, own_eq⟩
      refine .of_exec (exec_ask performed) (exec_ask performed') ends agrees' ?_
        fun j other => (frames j other).trans (kept j)
      rw [sights_ask performed, sights_ask performed', sights_eq]
    | error err =>
      have ends : EventCode.exec messenger receiver (.ask op next) state
          = (.error err, after) := by simp only [exec, Routine.run, performed]
      have ends' : EventCode.exec messenger receiver (.ask op next') state'
          = (.error err, after') := by simp only [exec, Routine.run, performed']
      refine .of_exec ends ends' rfl ⟨data_eq, own_eq⟩ ?_ fun j _ => kept j
      simp only [sights, performed, performed']
    | panic text =>
      have ends : EventCode.exec messenger receiver (.ask op next) state
          = (.panic text, after) := by simp only [exec, Routine.run, performed]
      have ends' : EventCode.exec messenger receiver (.ask op next') state'
          = (.panic text, after') := by simp only [exec, Routine.run, performed']
      refine .of_exec ends ends' rfl ⟨data_eq, own_eq⟩ ?_ fun j _ => kept j
      simp only [sights, performed, performed']
  | @left op quiet next code rest ih =>
    obtain ⟨reply, after, performed, data_eq, kept⟩ :=
      EventOp.perform_quiet messenger receiver quiet state
    have middle : after.Agrees own index state' :=
      ⟨data_eq.trans agrees.data_eq, (kept index).trans agrees.own_eq⟩
    obtain ⟨ends, agrees', sights_eq, frames⟩ := ih reply middle
    refine .of_exec (exec_ask performed) rfl ends agrees' ?_
      fun j other => (frames j other).trans (kept j)
    rw [sights_ask performed, ← sights_eq]
    rfl
  | @right op quiet next code rest ih =>
    obtain ⟨reply, after, performed, data_eq, kept⟩ :=
      EventOp.perform_quiet messenger receiver quiet state'
    have middle : state.Agrees own index after :=
      ⟨agrees.data_eq.trans data_eq.symm, agrees.own_eq.trans (kept index).symm⟩
    obtain ⟨ends, agrees', sights_eq, frames⟩ := ih reply middle
    refine .of_exec rfl (exec_ask performed) ends agrees' ?_ frames
    rw [sights_ask performed, sights_eq]
    rfl
  | @update f f' same frame frame' next next' rest ih =>
    have middle : EventState.Agrees own index
        { state with env := { state.env with world := f state.env.world } }
        { state' with env := { state'.env with world := f' state'.env.world } } :=
      ⟨agrees.data_eq, same _ _ agrees.own_eq⟩
    obtain ⟨ends, agrees', sights_eq, frames⟩ :=
      ih state.env.world state'.env.world agrees.own_eq middle
    exact ⟨ends, agrees', sights_eq,
      fun j other => (frames j other).trans (frame j other _)⟩

/-- Code that goes side by side with itself is confined. -/
theorem EventCode.Alike.isConfined {code : EventCode κ ω α}
    (alike : Alike own index code code) : code.IsConfined own index :=
  fun _ steady _ _ _ agrees => alike.runsAlike steady agrees

/-! ## Visits -/

/-- What confined code does in an event does not depend on anything else. -/
theorem Instance.runEvent_agrees (steady : messenger.IsSteady own) {inst : Instance κ ω}
    (confined : inst.module.run.IsConfined own index) {state state' : EventState κ ω}
    (agrees : state.Agrees own index state') :
    (inst.runEvent messenger state).1 = (inst.runEvent messenger state').1 ∧
      (inst.runEvent messenger state).2.Agrees own index (inst.runEvent messenger state').2 ∧
      inst.sights messenger state = inst.sights messenger state' ∧
      state.Frames own index (inst.runEvent messenger state).2 := by
  have missing_eq : messenger.missingRequired inst.receiver.id state.data.store
      = messenger.missingRequired inst.receiver.id state'.data.store := by
    rw [agrees.data_eq]
  unfold runEvent sights
  rw [missing_eq]
  cases messenger.missingRequired inst.receiver.id state'.data.store with
  | cons kind rest => exact ⟨rfl, ⟨agrees.data_eq, agrees.own_eq⟩, rfl, fun _ _ => rfl⟩
  | nil =>
    simp only [call, Proc.bind_apply, Proc.andThen, Proc.within, Proc.mapError]
    generalize entered_eq : HasJournal.withJournal
      ((HasJournal.journal state).enter ("R" ++ ":" ++ inst.name)).2 state = entered
    generalize entered_eq' : HasJournal.withJournal
      ((HasJournal.journal state').enter ("R" ++ ":" ++ inst.name)).2 state' = entered'
    have inside : entered.Agrees own index entered' := by
      subst entered_eq entered_eq'
      exact ⟨agrees.data_eq, agrees.own_eq⟩
    have enters : state.Frames own index entered := by
      subst entered_eq
      exact fun _ _ => rfl
    obtain ⟨outcome_eq, agrees', sights_eq, frames⟩ :=
      confined messenger steady inst.receiver inside
    generalize EventCode.exec messenger inst.receiver inst.module.run entered = result
      at outcome_eq agrees' frames ⊢
    generalize EventCode.exec messenger inst.receiver inst.module.run entered' = result'
      at outcome_eq agrees' ⊢
    obtain ⟨outcome, after⟩ := result
    obtain ⟨outcome', after'⟩ := result'
    obtain rfl : outcome = outcome' := outcome_eq
    have leaves : state.Frames own index after := fun j other =>
      (frames j other).trans (enters j other)
    cases outcome <;> exact ⟨rfl, ⟨agrees'.data_eq, agrees'.own_eq⟩, sights_eq, leaves⟩

/-- The visit of an event at an instance with confined code does not depend on
anything else. -/
theorem Instance.visitBy_agrees (steady : messenger.IsSteady own) {inst : Instance κ ω}
    (confined : inst.module.run.IsConfined own index) {state state' : EventState κ ω}
    (agrees : state.Agrees own index state') (event : Nat) :
    inst.visitBy messenger event index state = inst.visitBy messenger event index state' := by
  obtain ⟨outcome_eq, agrees', sights_eq, -⟩ := inst.runEvent_agrees steady confined agrees
  simp only [visitBy, agrees.data_eq, outcome_eq, sights_eq, agrees'.data_eq]

end Running

/-! ## Plans -/

/-- The instances of a plan are independent, and so are its listeners; the hooks
of its threads always end well and leave the own states alone. -/
structure RunPlan.Independent [DecidableEq κ] (plan : RunPlan κ ω)
    (own : (i : Nat) → ω → σ i) : Prop where
  safe : ∀ inst ∈ plan.instances, inst.module.safety ≠ .notThreadSafe
  /-- The instances that need not see the events in order have no state of their
  own. -/
  stateless : ∀ {index inst}, plan.instances[index]? = some inst →
    inst.module.safety = .threadSafe → ∀ world world', own index world = own index world'
  confined : ∀ {index} {inst : Instance κ ω}, plan.instances[index]? = some inst →
    inst.module.run.IsConfined own index
  threadInit : ∀ inst ∈ plan.instances, inst.module.threadInit.Steady own (.ok ())
  threadFinalize : ∀ inst ∈ plan.instances, inst.module.threadFinalize.Steady own (.ok ())
  listeners : plan.messenger.IsSteady own

end DetectorSim
