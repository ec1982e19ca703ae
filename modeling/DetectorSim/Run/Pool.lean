import DetectorSim.Gate
import DetectorSim.Run.Serial

/-!
# Running on a pool of workers

The workers of a pool process whole events.  Each takes the next event from a
counter that all of them share, and offers it to the instances in the order of
the list.  Instances that have to see the events in order have a gate in front,
where a worker waits until the turn of its event has come.

The pool is a machine that goes from state to state.  A step is made by one
worker, which does as much as can not be interfered with: it calls one hook,
offers its event to one instance, or reads or writes one of the things that the
workers share.  Which worker makes the next step is up to the scheduler; the
steps of a worker that waits at a gate are not possible.

The first error stops the run: it is kept, no more events are taken, and all
gates are aborted.  A panic is an error for the run as well, but its text is
kept apart and comes out in the end.

A sum that runs over is a panic.  This can happen to the count of events that each
worker keeps, for it has 32 bits only.  That the system has a thread for each worker
is taken for granted; without, the run ends with an error before its first step.
-/

set_option autoImplicit false

namespace DetectorSim

/-- What a panic interrupted. -/
inductive Interrupted where
  /-- The processing of an event; the worker still finalizes its thread. -/
  | event
  /-- A hook of the thread itself, or the count of its events. -/
  | thread
  deriving DecidableEq, Repr, Inhabited

/-- What a worker is about to do. -/
inductive Stage (κ : Type) [Payload κ] where
  /-- Get a thread to run on. -/
  | waiting
  /-- Initialize the instance with an index on its thread. -/
  | starting (index : Nat)
  /-- See whether the run goes on. -/
  | checking
  /-- Take the next event. -/
  | claiming
  /-- Offer an event to the instance with an index, once it may. -/
  | arriving (event : Nat) (data : EventData κ) (index : Nat)
  /-- Offer an event to the instance with an index. -/
  | running (event : Nat) (data : EventData κ) (index : Nat)
  /-- Hand on the turn at an instance that ended somehow. -/
  | leaving (event : Nat) (data : EventData κ) (index : Nat) (outcome : Outcome Unit)
  /-- Make an error of a panic. -/
  | unwinding (text : String) (what : Interrupted)
  /-- End the processing of events with a result. -/
  | closing (result : Except Error Unit)
  /-- Finalize the instance with an index on its thread. -/
  | finishing (result : Except Error Unit) (index : Nat)
  /-- Keep an error if it is the first. -/
  | failing (err : Error)
  /-- Stop the run. -/
  | raising
  /-- Abort the gate with an index. -/
  | releasing (index : Nat)
  /-- Nothing any more. -/
  | ended

/-- A worker of a pool. -/
structure Worker (κ : Type) [Payload κ] where
  /-- The thread that the worker runs on, once it has one. -/
  thread : ThreadId
  /-- The number of events that it processed, in 32 bits of which one is the sign. -/
  processed : Nat
  stage : Stage κ

namespace Worker

variable {κ : Type} [Payload κ]

/-- A worker without a thread. -/
def idle : Worker κ :=
  ⟨0, 0, .waiting⟩

/-- The worker at another stage. -/
def goTo (worker : Worker κ) (stage : Stage κ) : Worker κ :=
  { worker with stage }

@[simp] theorem goTo_stage (worker : Worker κ) (stage : Stage κ) :
    (worker.goTo stage).stage = stage := rfl

/-- Whether there is room in the count of a worker for another event. -/
def hasRoom (worker : Worker κ) : Bool :=
  worker.processed + 1 < 0x80000000

/-- The worker after an event was at all instances.  The event is counted; a count that
runs over is a panic outside of all events. -/
def countEvent (worker : Worker κ) : Worker κ :=
  if worker.hasRoom then { worker with processed := worker.processed + 1, stage := .checking }
  else worker.goTo (.unwinding overflowText .thread)

@[simp] theorem countEvent_thread (worker : Worker κ) :
    worker.countEvent.thread = worker.thread := by
  unfold countEvent
  split <;> rfl

theorem countEvent_of_room {worker : Worker κ} (room : worker.hasRoom = true) :
    worker.countEvent
      = { worker with processed := worker.processed + 1, stage := .checking } :=
  if_pos room

theorem countEvent_of_full {worker : Worker κ} (full : worker.hasRoom = false) :
    worker.countEvent = worker.goTo (.unwinding overflowText .thread) :=
  if_neg (by rw [full]; exact Bool.false_ne_true)

/-- Whether a worker runs on a thread. -/
def occupies (worker : Worker κ) (thread : ThreadId) : Bool :=
  match worker.stage with
  | .waiting => false
  | .ended => false
  | _ => worker.thread == thread

/-- Whether a worker is done. -/
def hasEnded (worker : Worker κ) : Bool :=
  match worker.stage with
  | .ended => true
  | _ => false

end Worker

/-- The state of a pool. -/
structure Pool (κ ω : Type) [Payload κ] where
  /-- The event that is taken next. -/
  next : Nat
  /-- Whether the run was stopped. -/
  aborted : Bool
  /-- The gates in front of the instances that have one. -/
  gates : List (Option Gate)
  /-- The first error. -/
  failure : Option Error
  /-- The text of the first panic. -/
  panicked : Option String
  tallies : List Tally
  env : Env ω
  workers : List (Worker κ)

/-- A decision of the scheduler. -/
structure Choice where
  /-- The worker that makes the next step. -/
  worker : Nat
  /-- The thread that it gets, if it has none. -/
  thread : ThreadId
  deriving DecidableEq, Repr, Inhabited

namespace Pool

variable {κ ω α : Type} [Payload κ]

/-- The gate in front of the instance with an index. -/
def gate? (pool : Pool κ ω) (index : Nat) : Option Gate :=
  pool.gates[index]?.join

/-- Change the gate in front of the instance with an index. -/
def changeGate (pool : Pool κ ω) (index : Nat) (f : Gate → Gate) : Pool κ ω :=
  { pool with gates := pool.gates.modify index (Option.map f) }

/-- Whether a thread belongs to the pool and no worker runs on it. -/
def isFree (pool : Pool κ ω) (thread : ThreadId) : Bool :=
  1 ≤ thread && thread ≤ pool.workers.length
    && !pool.workers.any fun worker => worker.occupies thread

/-- Run a procedure on a thread of the pool. -/
def perform (pool : Pool κ ω) (thread : ThreadId) (proc : Proc (Env ω) α) :
    Outcome α × Pool κ ω :=
  match proc.onThread thread pool.env with
  | (outcome, env) => (outcome, { pool with env })

/-- Write a log record on a thread of the pool. -/
def note (pool : Pool κ ω) (thread : ThreadId) (level : Level) (text : String) : Pool κ ω :=
  (pool.perform thread (Proc.log level text)).2

/-- Keep the text of a panic if it is the first. -/
def keepPanic (pool : Pool κ ω) (text : String) : Pool κ ω :=
  { pool with panicked := pool.panicked.or (some text) }

/-- Keep an error if it is the first. -/
def keepFailure (pool : Pool κ ω) (thread : ThreadId) (err : Error) : Pool κ ω :=
  match pool.failure with
  | some _ => pool
  | none =>
      { pool.note thread .error ("Stopping the event loop: " ++ err.message) with
        failure := some err }

/-- Whether all workers are done. -/
def hasEnded (pool : Pool κ ω) : Bool :=
  pool.workers.all Worker.hasEnded

/-- How the run ends.  A panic comes out again after all workers are done. -/
def outcome (pool : Pool κ ω) : Outcome Unit :=
  match pool.panicked, pool.failure with
  | some text, _ => .panic text
  | none, some err => .error err
  | none, none => .ok ()

end Pool

namespace RunPlan

variable {κ ω : Type} [Payload κ]

/-- A gate for each instance that has to see the events in order. -/
def gates (plan : RunPlan κ ω) : List (Option Gate) :=
  plan.instances.map fun inst =>
    if inst.module.safety = .sequential then some (.opening 1) else none

/-- A pool before its first step. -/
def startPool (plan : RunPlan κ ω) (workers : Nat) (tallies : List Tally) (env : Env ω) :
    Pool κ ω :=
  ⟨1, false, plan.gates, none, none, tallies, env, List.replicate workers .idle⟩

/-! ## Steps of a worker -/

/-- Initialize an instance on the thread of a worker. -/
def start (plan : RunPlan κ ω) (pool : Pool κ ω) (worker : Worker κ) (index : Nat) :
    Pool κ ω × Stage κ :=
  match plan.instances[index]? with
  | none => (pool, .checking)
  | some inst =>
      match pool.perform worker.thread inst.threadInit with
      | (.ok (), pool) => (pool, .starting (index + 1))
      | (.error err, pool) => (pool, .failing err)
      | (.panic text, pool) => (pool, .unwinding text .thread)

/-- Take the next event, unless all were taken.  The counter has 64 bits and
starts again from zero after its last number. -/
def claim (plan : RunPlan κ ω) (events : Nat) (pool : Pool κ ω) (worker : Worker κ) :
    Pool κ ω × Stage κ :=
  let event := pool.next
  let pool := { pool with next := (event + 1) % 0x10000000000000000 }
  if events < event then (pool, .closing (.ok ()))
  else
    (pool.note worker.thread .debug s!"Running event {event}",
      .arriving event (plan.startEvent event) 0)

/-- Go to an instance, if its gate does not say to wait. -/
def arrive? (pool : Pool κ ω) (event : Nat) (data : EventData κ) (index : Nat) :
    Option (Stage κ) :=
  match pool.gate? index with
  | none => some (.running event data index)
  | some gate =>
      match gate.wait? event with
      | none => none
      | some (.ok ()) => some (.running event data index)
      | some (.error err) => some (.closing (.error err))

/-- Leave an instance with an event. -/
def leave (pool : Pool κ ω) (event : Nat) (data : EventData κ) (index : Nat) :
    Outcome Unit → Pool κ ω × Stage κ
  | .ok () => (pool.changeGate index (·.handOn event), .arriving event data (index + 1))
  | .error err => (pool.changeGate index (·.handOn event), .closing (.error err))
  | .panic text => (pool.changeGate index (·.handOn event), .unwinding text .event)

/-- Make an error of a panic. -/
def unwind (pool : Pool κ ω) (text : String) : Interrupted → Pool κ ω × Stage κ
  | .event => (pool.keepPanic text, .closing (.error (.runtime ("module panicked: " ++ text))))
  | .thread => (pool.keepPanic text, .failing (.runtime ("module panicked: " ++ text)))

/-- Finalize an instance on the thread of a worker.  An error of the events
counts more than one of the hook. -/
def finish (plan : RunPlan κ ω) (pool : Pool κ ω) (worker : Worker κ)
    (result : Except Error Unit) (index : Nat) : Pool κ ω × Stage κ :=
  match plan.instances[index]? with
  | none =>
      match result with
      | .ok () => (pool, .ended)
      | .error err => (pool, .failing err)
  | some inst =>
      match pool.perform worker.thread inst.threadFinalize with
      | (.ok (), pool) => (pool, .finishing result (index + 1))
      | (.error err, pool) =>
          match result with
          | .ok () => (pool, .failing err)
          | .error first => (pool, .failing first)
      | (.panic text, pool) => (pool, .unwinding text .thread)

/-- Abort a gate. -/
def release (pool : Pool κ ω) (index : Nat) : Pool κ ω × Stage κ :=
  if index < pool.gates.length then (pool.changeGate index Gate.abort, .releasing (index + 1))
  else (pool, .ended)

variable [DecidableEq κ]

/-- Offer an event to an instance. -/
def visitAt (plan : RunPlan κ ω) (pool : Pool κ ω) (worker : Worker κ) (event : Nat)
    (data : EventData κ) (index : Nat) (inst : Instance κ ω) : Pool κ ω × Stage κ :=
  match (inst.offer plan.messenger index).onThread worker.thread
      (pool.tallies, ⟨data, pool.env⟩) with
  | (outcome, (tallies, state)) =>
      ({ pool with tallies, env := state.env }, .leaving event state.data index outcome)

/-- The step of a worker, if it can make one. -/
def advance? (plan : RunPlan κ ω) (events : Nat) (pool : Pool κ ω) (choice : Choice)
    (worker : Worker κ) : Option (Pool κ ω × Worker κ) :=
  let goOn (next : Pool κ ω × Stage κ) : Option (Pool κ ω × Worker κ) :=
    some (next.1, worker.goTo next.2)
  match worker.stage with
  | .waiting =>
      if pool.isFree choice.thread then
        some (pool, { worker with thread := choice.thread, stage := .starting 0 })
      else none
  | .starting index => goOn (plan.start pool worker index)
  | .checking => goOn (pool, if pool.aborted then .closing (.ok ()) else .claiming)
  | .claiming => goOn (plan.claim events pool worker)
  | .arriving event data index =>
      if index < plan.instances.length then
        (arrive? pool event data index).bind fun stage => goOn (pool, stage)
      else some (pool, worker.countEvent)
  | .running event data index =>
      plan.instances[index]?.bind fun inst =>
        goOn (plan.visitAt pool worker event data index inst)
  | .leaving event data index outcome => goOn (leave pool event data index outcome)
  | .unwinding text what => goOn (unwind pool text what)
  | .closing result =>
      goOn
        (pool.note worker.thread .debug
            s!"Worker {choice.worker} processed {worker.processed} events",
          .finishing result 0)
  | .finishing result index => goOn (plan.finish pool worker result index)
  | .failing err => goOn (pool.keepFailure worker.thread err, .raising)
  | .raising => goOn ({ pool with aborted := true }, .releasing 0)
  | .releasing index => goOn (release pool index)
  | .ended => none

/-! ## Runs of the pool -/

/-- The pool after the scheduler made a decision, if the step is possible. -/
def step? (plan : RunPlan κ ω) (events : Nat) (pool : Pool κ ω) (choice : Choice) :
    Option (Pool κ ω) :=
  match pool.workers[choice.worker]? with
  | none => none
  | some worker =>
      match plan.advance? events pool choice worker with
      | none => none
      | some (pool, worker) =>
          some { pool with workers := pool.workers.set choice.worker worker }

/-- What a pool can come to. -/
inductive Reaches (plan : RunPlan κ ω) (events : Nat) : Pool κ ω → Pool κ ω → Prop where
  | refl (pool : Pool κ ω) : Reaches plan events pool pool
  | tail {first middle last : Pool κ ω} (choice : Choice)
      (before : Reaches plan events first middle)
      (step : plan.step? events middle choice = some last) : Reaches plan events first last

/-- The step of the first worker that can make one; each worker has a thread of
its own. -/
def firstStep? (plan : RunPlan κ ω) (events : Nat) (pool : Pool κ ω) : Option (Pool κ ω) :=
  (List.range pool.workers.length).findSome? fun worker =>
    plan.step? events pool ⟨worker, worker + 1⟩

/-- Let the first worker that can make a step do so, again and again. -/
def drive (plan : RunPlan κ ω) (events : Nat) : Nat → Pool κ ω → Pool κ ω
  | 0, pool => pool
  | fuel + 1, pool =>
      match plan.firstStep? events pool with
      | none => pool
      | some pool => plan.drive events fuel pool

/-- An upper bound for the number of steps of a run. -/
def stepBound (plan : RunPlan κ ω) (events workers : Nat) : Nat :=
  workers * (4 * plan.instances.length + 20) + events * (3 * plan.instances.length + 3)

/-- Let a pool run to its end. -/
def runToEnd (plan : RunPlan κ ω) (events : Nat) (pool : Pool κ ω) : Pool κ ω :=
  plan.drive events (plan.stepBound events pool.workers.length) pool

/-- Process the events from one to `events` on a pool of workers, which is let
run to its end by `toEnd`. -/
def runPooled (plan : RunPlan κ ω) (toEnd : Pool κ ω → Pool κ ω) (workers : Nat) :
    Proc (List Tally × Env ω) Unit := fun (tallies, env) =>
  let pool := toEnd (plan.startPool workers tallies env)
  (pool.outcome, (pool.tallies, pool.env))

end RunPlan

end DetectorSim
