import DetectorSim.Proofs.Module.Thrift
import DetectorSim.Proofs.Pool.History

/-!
# Pools in lockstep

Two pools, one with code that sends everything and one with code that sends only what is
taken, stay the same but for the log under every scheduler: what a worker can do in the one
pool it can do in the other, and it makes the same calls of listeners.  So it does not matter
on how many workers a run is made if its code asks before it sends.
-/

set_option autoImplicit false

namespace DetectorSim

variable {κ ω α : Type} [Payload κ]

/-! ## Following a scheduler -/

namespace RunPlan

variable [DecidableEq κ]

/-- The pool after a scheduler made some decisions; what is not possible is passed over. -/
def follow (plan : RunPlan κ ω) (events : Nat) : List Choice → Pool κ ω → Pool κ ω
  | [], pool => pool
  | choice :: rest, pool => plan.follow events rest ((plan.step? events pool choice).getD pool)

/-- The calls of listeners that the next step of a worker makes. -/
def callsOfWorker (plan : RunPlan κ ω) (pool : Pool κ ω) (worker : Worker κ) :
    List (Messenger.ListenerCall κ ω) :=
  match worker.stage with
  | .running _ data index =>
      match plan.instances[index]? with
      | some inst =>
          inst.calls plan.messenger
            ⟨data, { pool.env with journal := { pool.env.journal with thread := worker.thread } }⟩
      | none => []
  | _ => []

/-- The calls of listeners that the step of a pool makes. -/
def callsAt (plan : RunPlan κ ω) (pool : Pool κ ω) (choice : Choice) :
    List (Messenger.ListenerCall κ ω) :=
  match pool.workers[choice.worker]? with
  | some worker => plan.callsOfWorker pool worker
  | none => []

/-- The calls of listeners while a scheduler makes some decisions, in order. -/
def callsAlong (plan : RunPlan κ ω) (events : Nat) :
    List Choice → Pool κ ω → List (Messenger.ListenerCall κ ω)
  | [], _ => []
  | choice :: rest, pool =>
      plan.callsAt pool choice ++
        plan.callsAlong events rest ((plan.step? events pool choice).getD pool)

theorem follow_append (plan : RunPlan κ ω) (events : Nat) (choices more : List Choice)
    (pool : Pool κ ω) :
    plan.follow events (choices ++ more) pool
      = plan.follow events more (plan.follow events choices pool) := by
  induction choices generalizing pool with
  | nil => rfl
  | cons choice rest ih => exact ih _

/-- What a pool can come to is what some scheduler makes of it. -/
theorem reaches_iff_exists_follow {plan : RunPlan κ ω} {events : Nat} {first last : Pool κ ω} :
    plan.Reaches events first last ↔ ∃ choices, plan.follow events choices first = last := by
  constructor
  · intro reached
    induction reached with
    | refl => exact ⟨[], rfl⟩
    | tail choice _ step ih =>
      obtain ⟨choices, rfl⟩ := ih
      refine ⟨choices ++ [choice], ?_⟩
      rw [follow_append, follow, step]
      rfl
  · rintro ⟨choices, rfl⟩
    suffices ∀ pool, plan.Reaches events first pool →
        plan.Reaches events first (plan.follow events choices pool) from this first (.refl first)
    induction choices with
    | nil => exact fun _ reached => reached
    | cons choice rest ih =>
      intro pool reached
      refine ih _ ?_
      cases step : plan.step? events pool choice with
      | none => exact reached
      | some next => exact reached.tail choice step

end RunPlan

/-! ## Pools without their log -/

instance : HasJournal (Pool κ ω) where
  journal pool := pool.env.journal
  withJournal journal pool := { pool with env := { pool.env with journal } }

namespace Pool

/-- What comes of a step is the same but for the log. -/
def Twin (result result' : Pool κ ω × α) : Prop :=
  unlogged result.1 = unlogged result'.1 ∧ result.2 = result'.2

variable {pool pool' : Pool κ ω} {env : Env ω}

/-- Pools that are the same but for the log differ in their environments only. -/
theorem unlogged_eq_iff :
    unlogged pool = unlogged pool' ↔
      ∃ env, pool' = { pool with env } ∧ unlogged pool.env = unlogged env := by
  constructor
  · intro like
    exact ⟨pool'.env, congrArg (fun pool : Pool κ ω => { pool with env := pool'.env }) like.symm,
      congrArg Pool.env like⟩
  · rintro ⟨env, rfl, like⟩
    exact congrArg (fun env => { pool with env }) like

theorem Twin.of_env (pool : Pool κ ω) (like : unlogged pool.env = unlogged env) (a : α) :
    Twin (pool, a) ({ pool with env }, a) :=
  ⟨unlogged_eq_iff.mpr ⟨env, rfl, like⟩, rfl⟩

/-- A procedure on a thread of one pool and its like on the same thread of the other. -/
theorem exists_perform {first second : Proc (Env ω) α} (same : Proc.Same first second)
    (thread : ThreadId) (like : unlogged pool.env = unlogged env) :
    ∃ outcome left left', pool.perform thread first = (outcome, { pool with env := left }) ∧
      { pool with env }.perform thread second = (outcome, { pool with env := left' }) ∧
      unlogged left = unlogged left' := by
  rcases ran : first.onThread thread pool.env with ⟨outcome, left⟩
  obtain ⟨left', ran', alike⟩ := (same.onThread thread).exists_ran like ran
  exact ⟨outcome, left, left', by simp only [perform, ran], by simp only [perform, ran'], alike⟩

theorem exists_note (pool : Pool κ ω) (thread : ThreadId) (level : Level)
    (text : String) (like : unlogged pool.env = unlogged env) :
    ∃ left left', pool.note thread level text = { pool with env := left } ∧
      { pool with env }.note thread level text = { pool with env := left' } ∧
      unlogged left = unlogged left' := by
  obtain ⟨_, left, left', ran, ran', alike⟩ :=
    exists_perform (Proc.Same.log level level text text) thread like
  exact ⟨left, left', by rw [note, ran], by rw [note, ran'], alike⟩

end Pool

/-! ## The stages -/

section Stages

variable {plan plan' : RunPlan κ ω} {inst inst' : Instance κ ω} {pool : Pool κ ω}
  {env env' : Env ω}

namespace Instance

theorem same_threadInit (inst : Instance κ ω) :
    Proc.Same inst.threadInit inst.threadInit :=
  ((Hook.same_exec _).mapError _).within _ _

theorem same_threadFinalize (inst : Instance κ ω) :
    Proc.Same inst.threadFinalize inst.threadFinalize :=
  ((Hook.same_exec _).mapError _).within _ _

namespace Thrifty

theorem threadInit_eq (thrifty : inst.Thrifty inst') : inst'.threadInit = inst.threadInit := by
  unfold threadInit call
  rw [thrifty.name_eq, thrifty.rest]

theorem threadFinalize_eq (thrifty : inst.Thrifty inst') :
    inst'.threadFinalize = inst.threadFinalize := by
  unfold threadFinalize call
  rw [thrifty.name_eq, thrifty.rest]

end Thrifty
end Instance

namespace RunPlan.Thrifty

open Pool

/-- Either plan has an instance at an index if the other one has, and the two are alike. -/
theorem instance_cases (thrifty : plan.Thrifty plan') (index : Nat) :
    (plan.instances[index]? = none ∧ plan'.instances[index]? = none) ∨
      ∃ inst inst', plan.instances[index]? = some inst ∧ plan'.instances[index]? = some inst' ∧
        inst.Thrifty inst' := by
  have pairs := thrifty.instances
  generalize plan.instances = insts, plan'.instances = insts' at pairs
  induction pairs generalizing index with
  | nil => exact .inl ⟨rfl, rfl⟩
  | cons pair _ ih =>
    cases index with
    | zero => exact .inr ⟨_, _, rfl, rfl, pair⟩
    | succ index => exact ih index

theorem length_eq (thrifty : plan.Thrifty plan') :
    plan'.instances.length = plan.instances.length :=
  thrifty.instances.length_eq.symm

theorem gates_eq (thrifty : plan.Thrifty plan') : plan'.gates = plan.gates := by
  have pairs := thrifty.instances
  unfold gates
  generalize plan.instances = insts, plan'.instances = insts' at pairs
  induction pairs with
  | nil => rfl
  | cons pair _ ih => rw [List.map_cons, List.map_cons, ih, pair.rest]

theorem unlogged_startPool (thrifty : plan.Thrifty plan') (workers : Nat) (tallies : List Tally)
    (like : unlogged env = unlogged env') :
    unlogged (plan.startPool workers tallies env)
      = unlogged (plan'.startPool workers tallies env') := by
  refine unlogged_eq_iff.mpr ⟨env', ?_, like⟩
  unfold startPool
  rw [thrifty.gates_eq]

theorem twin_start (thrifty : plan.Thrifty plan') (like : unlogged pool.env = unlogged env)
    (worker : Worker κ) (index : Nat) :
    Twin (plan.start pool worker index) (plan'.start { pool with env } worker index) := by
  unfold start
  rcases thrifty.instance_cases index with ⟨found, found'⟩ | ⟨inst, inst', found, found', pair⟩
  · rw [found, found']
    exact .of_env _ like _
  · rw [found, found']
    simp only [pair.threadInit_eq]
    obtain ⟨outcome, left, left', ran, ran', alike⟩ :=
      exists_perform inst.same_threadInit worker.thread like
    simp only [ran, ran']
    cases outcome <;> exact .of_env _ alike _

theorem twin_claim (thrifty : plan.Thrifty plan') (like : unlogged pool.env = unlogged env)
    (events : Nat) (worker : Worker κ) :
    Twin (plan.claim events pool worker) (plan'.claim events { pool with env } worker) := by
  unfold claim
  simp only
  generalize (pool.next + 1) % 0x10000000000000000 = counted
  by_cases beyond : events < pool.next
  · simp only [beyond, if_true]
    exact .of_env { pool with next := counted } like _
  · obtain ⟨left, left', ran, ran', alike⟩ := exists_note { pool with next := counted }
      worker.thread .debug s!"Running event {pool.next}" like
    simp only [beyond, if_false, ran, ran', thrifty.startEvent_eq]
    exact .of_env { pool with next := counted, env := left } alike _

theorem twin_finish (thrifty : plan.Thrifty plan') (like : unlogged pool.env = unlogged env)
    (worker : Worker κ) (result : Except Error Unit) (index : Nat) :
    Twin (plan.finish pool worker result index)
      (plan'.finish { pool with env } worker result index) := by
  unfold finish
  rcases thrifty.instance_cases index with ⟨found, found'⟩ | ⟨inst, inst', found, found', pair⟩
  · rw [found, found']
    cases result <;> exact .of_env _ like _
  · rw [found, found']
    simp only [pair.threadFinalize_eq]
    obtain ⟨outcome, left, left', ran, ran', alike⟩ :=
      exists_perform inst.same_threadFinalize worker.thread like
    simp only [ran, ran']
    cases outcome with
    | error err => cases result <;> exact .of_env _ alike _
    | _ => exact .of_env _ alike _

theorem twin_keepFailure (like : unlogged pool.env = unlogged env) (thread : ThreadId)
    (err : Error) (a : α) :
    Twin (pool.keepFailure thread err, a) ({ pool with env }.keepFailure thread err, a) := by
  obtain ⟨next, aborted, gates, failure, panicked, tallies, own, workers⟩ := pool
  cases failure with
  | some first =>
    exact .of_env ⟨next, aborted, gates, some first, panicked, tallies, own, workers⟩ like _
  | none =>
    obtain ⟨left, left', ran, ran', alike⟩ :=
      exists_note ⟨next, aborted, gates, none, panicked, tallies, own, workers⟩ thread .error
        ("Stopping the event loop: " ++ err.message) like
    simp only [keepFailure, ran, ran']
    exact .of_env ⟨next, aborted, gates, some err, panicked, tallies, left, workers⟩ alike _

theorem twin_leave (like : unlogged pool.env = unlogged env) (event : Nat) (data : EventData κ)
    (index : Nat) (outcome : Outcome Unit) :
    Twin (leave pool event data index outcome)
      (leave { pool with env } event data index outcome) := by
  cases outcome <;> exact .of_env (pool.changeGate index (·.handOn event)) like _

theorem twin_unwind (like : unlogged pool.env = unlogged env) (text : String)
    (what : Interrupted) :
    Twin (unwind pool text what) (unwind { pool with env } text what) := by
  cases what <;> exact .of_env (pool.keepPanic text) like _

theorem twin_release (like : unlogged pool.env = unlogged env) (index : Nat) :
    Twin (release pool index) (release { pool with env } index) := by
  unfold release
  by_cases inside : index < pool.gates.length
  · simp only [inside, if_true]
    exact .of_env (pool.changeGate index Gate.abort) like _
  · simp only [inside, if_false]
    exact .of_env _ like _

variable [DecidableEq κ]

theorem twin_visitAt (thrifty : plan.Thrifty plan') (like : unlogged pool.env = unlogged env)
    (worker : Worker κ) (event : Nat) (data : EventData κ) (index : Nat)
    (pair : inst.Thrifty inst') :
    Twin (plan.visitAt pool worker event data index inst)
      (plan'.visitAt { pool with env } worker event data index inst') := by
  unfold visitAt
  rw [thrifty.messenger]
  have start : unlogged (pool.tallies, (⟨data, pool.env⟩ : EventState κ ω))
      = unlogged (pool.tallies, ⟨data, env⟩) :=
    unlogged_pair_eq_iff.mpr ⟨rfl, EventState.unlogged_eq_iff.mpr ⟨rfl, like⟩⟩
  rcases ran : (inst.offer plan.messenger index).onThread worker.thread
    (pool.tallies, ⟨data, pool.env⟩) with ⟨outcome, tallies, state⟩
  obtain ⟨⟨tallies', state'⟩, ran', left⟩ :=
    ((pair.same_offer plan.messenger index).onThread worker.thread).exists_ran start ran
  obtain ⟨rfl, state_like⟩ := unlogged_pair_eq_iff.mp left
  obtain ⟨data_eq, alike⟩ := EventState.unlogged_eq_iff.mp state_like
  simp only [ran', data_eq]
  exact .of_env { pool with tallies, env := state.env } alike _

/-! ## Steps -/

/-- What a worker can do in the one pool it can do in the other. -/
theorem rel_advance? (thrifty : plan.Thrifty plan') (like : unlogged pool.env = unlogged env)
    (events : Nat) (choice : Choice) (worker : Worker κ) :
    Option.Rel Twin (plan.advance? events pool choice worker)
      (plan'.advance? events { pool with env } choice worker) := by
  have goes {next next' : Pool κ ω × Stage κ} (twin : Twin next next') :
      Option.Rel Twin (some (next.1, worker.goTo next.2)) (some (next'.1, worker.goTo next'.2)) :=
    .some ⟨twin.1, congrArg worker.goTo twin.2⟩
  unfold advance?
  cases worker.stage with
  | waiting =>
    by_cases free : pool.isFree choice.thread = true
    · have free' : { pool with env }.isFree choice.thread = true := free
      simp only [free, free', if_true]
      exact .some (.of_env _ like _)
    · have free' : ¬ { pool with env }.isFree choice.thread = true := free
      simp only [free, free']
      exact .none
  | starting index => exact goes (thrifty.twin_start like worker index)
  | checking => exact goes (.of_env pool like _)
  | claiming => exact goes (thrifty.twin_claim like events worker)
  | arriving event data index =>
    have arrives : arrive? { pool with env } event data index = arrive? pool event data index :=
      rfl
    simp only [thrifty.length_eq, arrives]
    by_cases inside : index < plan.instances.length
    · simp only [inside, if_true]
      cases arrive? pool event data index with
      | none => exact .none
      | some stage => exact goes (.of_env pool like stage)
    · simp only [inside, if_false]
      exact .some (.of_env _ like _)
  | running event data index =>
    simp only
    rcases thrifty.instance_cases index with ⟨found, found'⟩ | ⟨inst, inst', found, found', pair⟩
    · rw [found, found']
      exact .none
    · rw [found, found']
      exact goes (thrifty.twin_visitAt like worker event data index pair)
  | leaving event data index outcome => exact goes (twin_leave like event data index outcome)
  | unwinding text what => exact goes (twin_unwind like text what)
  | closing result =>
    obtain ⟨left, left', ran, ran', alike⟩ := exists_note pool worker.thread .debug
      s!"Worker {choice.worker} processed {worker.processed} events" like
    simp only [ran, ran']
    exact goes (.of_env { pool with env := left } alike _)
  | finishing result index => exact goes (thrifty.twin_finish like worker result index)
  | failing err => exact goes (twin_keepFailure like worker.thread err _)
  | raising => exact goes (.of_env { pool with aborted := true } like _)
  | releasing index => exact goes (twin_release like index)
  | ended => exact .none

variable {pool' : Pool κ ω}

/-- What a scheduler can decide in the one pool it can decide in the other, and the pools
stay the same but for the log. -/
theorem unlogged_step? (thrifty : plan.Thrifty plan') (like : unlogged pool = unlogged pool')
    (events : Nat) (choice : Choice) :
    unlogged ((plan.step? events pool choice).getD pool)
      = unlogged ((plan'.step? events pool' choice).getD pool') := by
  obtain ⟨env, rfl, env_like⟩ := unlogged_eq_iff.mp like
  unfold step?
  simp only
  cases pool.workers[choice.worker]? with
  | none => exact like
  | some worker =>
    have twins := thrifty.rel_advance? env_like events choice worker
    simp only
    generalize plan.advance? events pool choice worker = next,
      plan'.advance? events { pool with env } choice worker = next' at twins
    cases twins with
    | none => exact like
    | some twin =>
      obtain ⟨alike, after⟩ := twin
      obtain ⟨left, moved, alike⟩ := unlogged_eq_iff.mp alike
      simp only [Option.getD_some, moved, after]
      exact unlogged_eq_iff.mpr ⟨left, rfl, alike⟩

/-- A step of the one pool and of the other make the same calls of listeners. -/
theorem callsAt_eq (thrifty : plan.Thrifty plan') (like : unlogged pool = unlogged pool')
    (choice : Choice) : plan.callsAt pool choice = plan'.callsAt pool' choice := by
  obtain ⟨env, rfl, env_like⟩ := unlogged_eq_iff.mp like
  unfold callsAt callsOfWorker
  simp only
  cases pool.workers[choice.worker]? with
  | none => rfl
  | some worker =>
    simp only
    cases worker.stage with
    | running event data index =>
      simp only
      rcases thrifty.instance_cases index with ⟨found, found'⟩ | ⟨inst, inst', found, found', pair⟩
      · rw [found, found']
      · rw [found, found', thrifty.messenger]
        exact pair.calls_eq plan.messenger
          (EventState.unlogged_eq_iff.mpr ⟨rfl, unlogged_moved worker.thread env_like⟩)
    | _ => rfl

/-- Under every scheduler the pools stay the same but for the log, and the same calls of
listeners are made. -/
theorem unlogged_follow (thrifty : plan.Thrifty plan') (events : Nat) (choices : List Choice)
    (like : unlogged pool = unlogged pool') :
    unlogged (plan.follow events choices pool) = unlogged (plan'.follow events choices pool') ∧
      plan.callsAlong events choices pool = plan'.callsAlong events choices pool' := by
  induction choices generalizing pool pool' with
  | nil => exact ⟨like, rfl⟩
  | cons choice rest ih =>
    obtain ⟨left, calls⟩ := ih (thrifty.unlogged_step? like events choice)
    refine ⟨left, ?_⟩
    rw [callsAlong, callsAlong, thrifty.callsAt_eq like choice, calls]

end RunPlan.Thrifty

/-! ## What the answer foretells -/

/-- **What is asked before is what happens then.**  In a store that was opened after the
last bind, and after any dispatches and removals: if nobody would take a message, sending it
ends well, calls no listener and leaves nothing but a record in the log.  If somebody would,
sending it fails at somebody who is to take it, or somebody gets it.  So code that sends
only what is taken can not be told from code that sends everything, in any state of an event
and on any thread: it ends in the same way, leaves the same data and the same world, and
calls the same listeners.  The same holds of all events of a run of plans with such code, one
after the other, and on a pool of workers under every scheduler. -/
theorem Messenger.Posted.foretold [DecidableEq κ] {messenger : Messenger κ ω} {event : Nat}
    {bonds : List (Bond κ ω)} {store : MessageStore κ} {receipts : List (Receipt κ)}
    (history : Posted event bonds messenger store receipts) :
    (∀ (source : Receiver) (message : AnyMessage κ) (env : Env ω),
      (messenger.hasReceiver message = false →
        ∃ left, messenger.dispatch source message (store, env) = (.ok (), (store, left)) ∧
          unlogged left = unlogged env ∧ messenger.callsOf message (store, env) = []) ∧
      (messenger.hasReceiver message = true → ∀ outcome after left,
        messenger.dispatch source message (store, env) = (outcome, (after, left)) →
        (outcome ≠ .ok () ∧ ∃ bond ∈ bonds, bond.delegate ∈ messenger.accepting message ∧
            ∃ found, bond.delegate.Refuses message after found outcome) ∨
          (outcome = .ok () ∧ ∃ bond ∈ bonds, bond.delegate ∈ messenger.accepting message ∧
            bond.Got message store after))) ∧
    (∀ (receiver : Receiver) (α : Type) (code code' : EventCode κ ω α), code.Thrifty code' →
      EventCode.SameRuns messenger receiver code code') ∧
    ∀ plan plan' : RunPlan κ ω, plan.messenger = messenger → plan.Thrifty plan' →
      ∀ (events : Nat) (state : List Tally × Env ω),
        (plan.reports 1 events state = plan'.reports 1 events state ∧
          (plan.runSerial events state).1 = (plan'.runSerial events state).1 ∧
          unlogged (plan.runSerial events state).2 = unlogged (plan'.runSerial events state).2) ∧
        ∀ (workers : Nat) (choices : List Choice),
          let pool := plan.startPool workers state.1 state.2
          let pool' := plan'.startPool workers state.1 state.2
          unlogged (plan.follow events choices pool)
              = unlogged (plan'.follow events choices pool') ∧
            plan.callsAlong events choices pool = plan'.callsAlong events choices pool' := by
  refine ⟨fun source message env => ⟨fun nobody => ?_, fun somebody outcome after left ran => ?_⟩,
    fun receiver α code code' thrifty => thrifty.sameRuns messenger receiver,
    fun plan plan' _ thrifty events state => ?_⟩
  · obtain ⟨text, sent⟩ := dispatch_of_hasReceiver_eq_false nobody source (store, env)
    exact ⟨_, sent, unlogged_log .trace text env, callsOf_of_hasReceiver_eq_false nobody _⟩
  · exact history.got_or_refused somebody ran
  · exact ⟨⟨thrifty.reports_eq 1 events rfl, thrifty.same_processFrom 1 events state state rfl⟩,
      fun workers choices => thrifty.unlogged_follow events choices
        (thrifty.unlogged_startPool workers state.1 rfl)⟩

end Stages

/-! ## A display that wants hits only -/

open Builtin

/-- A message with no deposits, for no detector. -/
def AnyMessage.depositless : AnyMessage PayloadKind :=
  ⟨.deposited, ⟨⟨1, 0⟩, ([] : List DepositedCharge), none⟩⟩

/-- A module that sends hits for the display and deposits for nobody. -/
def Module.talking : Module PayloadKind Unit :=
  { (Module.idle : Module PayloadKind Unit) with
    run := .ask (.dispatch .depositless) fun _ =>
      .ask (.dispatch (.hitless 1 "left")) Routine.ofExcept }

/-- The same module, but it asks first. -/
def Module.sparing : Module PayloadKind Unit :=
  { Module.talking with run := Module.talking.run.askFirst }

/-- The plan with a module and the display. -/
def RunPlan.shown (module : Module PayloadKind Unit) : RunPlan PayloadKind Unit :=
  { RunPlan.ofModules [module] with messenger := .displaying }

theorem RunPlan.thrifty_shown : (shown .talking).Thrifty (shown .sparing) where
  instances := .cons ⟨rfl, rfl, EventCode.thrifty_askFirst _, rfl⟩ .nil
  messenger := rfl
  source := rfl
  seed := rfl

/-- The display takes hits and no deposits, so the module may leave these out. -/
theorem Messenger.foretold_displaying :
    displaying.hasReceiver .depositless = false ∧
      (displaying.dispatch .leftDisplay .depositless (displaying.newStore 1, ⟨(), .empty⟩)).1
        = .ok () ∧
      displaying.hasReceiver (.hitless 1 "left") = true ∧
      (∃ bond ∈ [Bond.shown, .heard], bond.Got (.hitless 1 "left") (displaying.newStore 1)
        (displaying.dispatch .leftDisplay (.hitless 1 "left")
          (displaying.newStore 1, ⟨(), .empty⟩)).2.1) ∧
      (RunPlan.shown .talking).reports 1 2 ([.zero], ⟨(), .empty⟩)
        = (RunPlan.shown .sparing).reports 1 2 ([.zero], ⟨(), .empty⟩) ∧
      ∀ choices,
        (RunPlan.shown .talking).callsAlong 2 choices
            ((RunPlan.shown .talking).startPool 2 [.zero] ⟨(), .empty⟩)
          = (RunPlan.shown .sparing).callsAlong 2 choices
              ((RunPlan.shown .sparing).startPool 2 [.zero] ⟨(), .empty⟩) := by
  have built : Built [.shown, .heard] displaying :=
    (Built.empty.bound .leftDisplay PayloadKind.hits .overwriting .single).bound .leftDisplay
      PayloadKind.hits .anyName (.listener fun _ => .done ())
  have history : Posted 1 [.shown, .heard] displaying (displaying.newStore 1) [] := .opened built
  obtain ⟨sends, -, runs⟩ := history.foretold
  have nobody : displaying.hasReceiver .depositless = false := rfl
  have somebody : displaying.hasReceiver (.hitless 1 "left") = true := rfl
  obtain ⟨⟨reports, -⟩, pooled⟩ := runs _ _ rfl RunPlan.thrifty_shown 2 ([.zero], ⟨(), .empty⟩)
  refine ⟨nobody, ?_, somebody, ?_, reports, fun choices => (pooled 2 choices).2⟩
  · obtain ⟨left, sent, -⟩ := (sends .leftDisplay .depositless ⟨(), .empty⟩).1 nobody
    rw [sent]
  · rcases (sends .leftDisplay (.hitless 1 "left") ⟨(), .empty⟩).2 somebody _ _ _ rfl with
      ⟨failed, -⟩ | ⟨-, bond, live, -, got⟩
    · exact absurd rfl failed
    · exact ⟨bond, live, got⟩

end DetectorSim
