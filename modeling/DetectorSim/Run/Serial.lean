import DetectorSim.Module.Instance

/-!
# Running on one thread

All events are processed one after the other.  In each event the instances get
their turn in the order of the list; the first failure ends the run.
-/

set_option autoImplicit false

namespace DetectorSim

/-- What a run works with: the instances, their messenger, and where the random
numbers come from. -/
structure RunPlan (κ ω : Type) [Payload κ] where
  instances : List (Instance κ ω)
  messenger : Messenger κ ω
  source : RandomSource
  seed : UInt64

namespace RunPlan

variable {κ ω : Type} [Payload κ]

/-- No instance has done anything. -/
def noTallies (plan : RunPlan κ ω) : List Tally :=
  plan.instances.map fun _ => Tally.zero

/-- The data of an event before its first instance. -/
def startEvent (plan : RunPlan κ ω) (event : Nat) : EventData κ :=
  .start plan.messenger plan.source plan.seed event

variable [DecidableEq κ]

/-- Offer an event to some instances, the first of which has a given index. -/
def visit (plan : RunPlan κ ω) :
    Nat → List (Instance κ ω) → Proc (List Tally × EventState κ ω) Unit
  | _, [], state => (.ok (), state)
  | index, inst :: rest, state =>
      match inst.offer plan.messenger index state with
      | (.ok (), state) => plan.visit (index + 1) rest state
      | (.error err, state) => (.error err, state)
      | (.panic text, state) => (.panic text, state)

/-- Process one event. -/
def processEvent (plan : RunPlan κ ω) (event : Nat) : Proc (List Tally × Env ω) Unit :=
  fun (tallies, env) =>
    let env := { env with journal := env.journal.write .debug s!"Running event {event}" }
    match plan.visit 0 plan.instances (tallies, ⟨plan.startEvent event, env⟩) with
    | (outcome, (tallies, state)) => (outcome, (tallies, state.env))

/-- Process a number of events from a given one on. -/
def processFrom (plan : RunPlan κ ω) : Nat → Nat → Proc (List Tally × Env ω) Unit
  | _, 0, state => (.ok (), state)
  | event, count + 1, state =>
      match plan.processEvent event state with
      | (.ok (), state) => plan.processFrom (event + 1) count state
      | (.error err, state) => (.error err, state)
      | (.panic text, state) => (.panic text, state)

/-- Process the events from one to `events` on one thread. -/
def runSerial (plan : RunPlan κ ω) (events : Nat) : Proc (List Tally × Env ω) Unit :=
  plan.processFrom 1 events

end RunPlan

end DetectorSim
