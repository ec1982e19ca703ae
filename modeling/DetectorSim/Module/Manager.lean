import DetectorSim.Host
import DetectorSim.Module.Registry
import DetectorSim.Module.Target
import DetectorSim.Run.Pool
import DetectorSim.Run.Report
import DetectorSim.Settings

/-!
# The module manager

The manager creates the instances that a configuration asks for and leads them
through their life: they are loaded, initialized, run and finalized, each once
and in this order.

No two instances compete for the same place.  When a section asks for an
instance whose place is taken, the more specific of the two stays; if neither is
more specific the configuration is ambiguous.  A replaced instance loses its
delegates, and the one that replaces it goes to the end of the list.
-/

set_option autoImplicit false

namespace DetectorSim

open Config

/-- How far the instances are led. -/
inductive ManagerState where
  | empty
  | loaded
  | initialized
  | ran
  | finalized
  deriving DecidableEq, Repr, Inhabited

namespace ManagerState

/-- The name of a state. -/
def label : ManagerState → String
  | .empty => "Empty"
  | .loaded => "Loaded"
  | .initialized => "Initialized"
  | .ran => "Ran"
  | .finalized => "Finalized"

end ManagerState

/-- The instances of a simulation and what belongs to them. -/
structure Manager (κ ω : Type) [Payload κ] where
  messenger : Messenger κ ω
  /-- The instances in the order in which they run. -/
  instances : List (Instance κ ω)
  /-- The number of the next handle. -/
  nextId : Nat
  state : ManagerState

/-- What comes of asking for an instance. -/
inductive Claim (κ ω : Type) [Payload κ] where
  /-- Its place is free. -/
  | free
  /-- It replaces the instance that has its place. -/
  | replaces (held : Instance κ ω)
  /-- It is dropped for the instance that has its place. -/
  | dropped (held : Instance κ ω)
  /-- It is just as specific as the instance that has its place. -/
  | ambiguous

namespace Manager

variable {κ ω α : Type} [Payload κ]

/-- A manager without instances. -/
def empty : Manager κ ω :=
  ⟨.empty, [], 0, .empty⟩

/-- The instance that has a place. -/
def holder? (manager : Manager κ ω) (key : String × String) : Option (Instance κ ω) :=
  manager.instances.find? fun inst => inst.identifier.key = key

/-- What comes of asking for an instance. -/
def claim (manager : Manager κ ω) (identifier : Identifier) : Claim κ ω :=
  match manager.holder? identifier.key with
  | none => .free
  | some held =>
      if identifier.priority.overrides held.identifier.priority then .replaces held
      else if held.identifier.priority.overrides identifier.priority then .dropped held
      else .ambiguous

/-- The manager without the instance that has a place. -/
def vacate (manager : Manager κ ω) (key : String × String) : Manager κ ω :=
  { manager with
    instances := manager.instances.eraseP fun inst => inst.identifier.key = key }

/-- The names of the instances that must not run on several threads. -/
def unsafeNames (manager : Manager κ ω) : List String :=
  (manager.instances.filter fun inst => inst.module.safety = .notThreadSafe).map
    Instance.name

/-- Give up all instances in the order of the list. -/
def release (manager : Manager κ ω) (env : Env ω) : Env ω :=
  manager.instances.foldl (fun env inst => inst.release env) env

/-- Run a procedure on the messenger and the environment. -/
def onMessenger (proc : Proc (Messenger κ ω × Env ω) α) : Proc (Manager κ ω × Env ω) α :=
  Proc.zoom (fun (manager, env) => (manager.messenger, env))
    (fun (messenger, env) (manager, _) => ({ manager with messenger }, env)) proc

/-- Go on to a state. -/
def enter (state : ManagerState) : Proc (Manager κ ω × Env ω) Unit :=
  Proc.modify fun (manager, env) => ({ manager with state }, env)

/-- Fail unless the manager is in the state that a step of its life needs. -/
def expect (expected : ManagerState) (verb : String) : Proc (Manager κ ω × Env ω) Unit :=
  fun (manager, env) =>
    if manager.state = expected then (.ok (), (manager, env))
    else
      (.error (.logic
          s!"cannot {verb} modules in state {manager.state.label}, expected {expected.label}"),
        (manager, env))

/-- The identity that the next instance gets. -/
def nextSite (manager : Manager κ ω) (target : Target) : Site :=
  ⟨target.identifier, ⟨⟨manager.nextId⟩, target.identifier.display, target.detector⟩⟩

/-- Hand out the identity of the next instance. -/
def takeSite (target : Target) : Proc (Manager κ ω × Env ω) Site := fun (manager, env) =>
  (.ok (manager.nextSite target), ({ manager with nextId := manager.nextId + 1 }, env))

/-- What the factory of a module type does for a target. -/
def factoryCode (descriptor : Descriptor κ ω) (s : Section) (geometry : Geometry)
    (site : Site) : Construction κ ω (Module κ ω) :=
  match descriptor.factory, site.receiver.detector with
  | .unique construct, _ => construct s site geometry
  | .perDetector construct, some detector => construct s site detector
  | .perDetector _, none =>
      .fail (.logic
        s!"detector-scoped module {site.identifier.display} constructed without a detector")

variable [DecidableEq κ]

/-! ## Loading -/

/-- Decide whether an instance may be constructed, and give up the one that it
replaces. -/
def claimPlace (identifier : Identifier) : Proc (Manager κ ω × Env ω) Bool := do
  let (manager, _) ← Proc.get
  match manager.claim identifier with
  | .free => return true
  | .replaces held =>
      Proc.modify fun (manager, env) => (manager.vacate identifier.key, env)
      let removed ← onMessenger (Messenger.removeAllLogged held.receiver.id)
      Proc.log .debug
        (s!"Replacing {held.name} (priority {held.identifier.priority.classNumber})"
          ++ s!" by a more specific instantiation (priority {identifier.priority.classNumber})"
          ++ s!", removed {removed} delegates")
      Proc.modify fun (manager, env) => (manager, held.release env)
      return true
  | .dropped held =>
      Proc.log .debug
        (s!"Ignoring instantiation of {identifier.display}"
          ++ s!" with priority {identifier.priority.classNumber}, already instantiated"
          ++ s!" with priority {held.identifier.priority.classNumber}")
      return false
  | .ambiguous => Proc.fail (.ambiguousInstance identifier.module identifier.detector)

/-- Take in what a factory made.  A failed factory leaves no delegates. -/
def install (site : Site) : Outcome (Module κ ω) → Proc (Manager κ ω × Env ω) Unit
  | .ok module => do
      Proc.log .debug
        s!"Constructed {site.identifier.display} as instance {site.receiver.id.display}"
      Proc.modify fun (manager, env) =>
        ({ manager with
            instances := manager.instances ++ [⟨site.identifier, site.receiver, module⟩] },
          env)
  | .error err => do
      let _ ← onMessenger (Messenger.removeAllLogged site.receiver.id)
      Proc.fail (err.inModule site.identifier.display .construction)
  | .panic text => Proc.ofOutcome (.panic text)

/-- Construct an instance. -/
def construct (descriptor : Descriptor κ ω) (s : Section) (geometry : Geometry)
    (target : Target) : Proc (Manager κ ω × Env ω) Unit := do
  let site ← takeSite target
  Proc.within ("C:" ++ site.identifier.display) do
    let made ← Proc.attempt
      (onMessenger ((factoryCode descriptor s geometry site).exec site.receiver))
    install site made

/-- Construct the instance that a target asks for, if it may be. -/
def loadTarget (descriptor : Descriptor κ ω) (s : Section) (geometry : Geometry)
    (target : Target) : Proc (Manager κ ω × Env ω) Unit := do
  if ← claimPlace target.identifier then
    construct descriptor s geometry target

/-- Construct the instances that a section asks for. -/
def loadSection (registry : Registry κ ω) (geometry : Geometry) (s : Section) :
    Proc (Manager κ ω × Env ω) Unit := do
  let descriptor ← Proc.ofExcept (registry.resolve s.name)
  Proc.log .info s!"Loaded module {descriptor.name}"
  let targets ← Proc.ofExcept (Target.ofSection descriptor s geometry)
  Proc.each (loadTarget descriptor s geometry) targets

/-- Construct the instances that a configuration asks for. -/
def load (reader : Reader) (registry : Registry κ ω) (geometry : Geometry) :
    Proc (Manager κ ω × Env ω) Unit := do
  expect .empty "load"
  Proc.each (loadSection registry geometry) reader.moduleSections
  let (manager, _) ← Proc.get
  Proc.log .info s!"Created {manager.instances.length} module instances"
  enter .loaded

/-! ## Initializing and finalizing -/

/-- Make a call of every instance, each announced in the log. -/
def callAll (announcement : String) (call : Instance κ ω → Proc (Env ω) Unit) :
    Proc (Manager κ ω × Env ω) Unit := do
  let (manager, _) ← Proc.get
  Proc.each
    (fun inst => do
      Proc.log .debug (announcement ++ " " ++ inst.name)
      Proc.onSnd (call inst))
    manager.instances

/-- Initialize the instances. -/
def init : Proc (Manager κ ω × Env ω) Unit := do
  expect .loaded "init"
  callAll "Initializing" Instance.init
  enter .initialized

/-- Finalize the instances. -/
def finalize : Proc (Manager κ ω × Env ω) Unit := do
  expect .ran "finalize"
  callAll "Finalizing" Instance.finalize
  enter .finalized

/-! ## Running -/

/-- Decide on how many workers to run. -/
def planWorkers (host : Host) (settings : Settings) : Proc (Manager κ ω × Env ω) Nat := do
  let (manager, _) ← Proc.get
  let workers := settings.workers host.processors
  match settings.concurrency with
  | .singleThreaded => return 1
  | .pooled =>
      if workers < 2 then
        Proc.log .debug "Multithreading requested with a single worker"
        return 1
      else
        match manager.unsafeNames with
        | [] => return workers
        | names =>
            if settings.strict then Proc.fail (.threadUnsafe names)
            else
              Proc.log .warn
                ("Modules " ++ ", ".intercalate names
                  ++ " are not thread-safe, running single-threaded")
              return 1

/-- How a pool comes to its end. -/
abbrev Scheduler (κ ω : Type) [Payload κ] : Type :=
  RunPlan κ ω → Nat → Pool κ ω → Pool κ ω

/-- Process the events of a run. -/
def processEvents (scheduler : Scheduler κ ω) (plan : RunPlan κ ω) (events workers : Nat) :
    Proc (Manager κ ω × Env ω) (List Tally) := fun (manager, env) =>
  let proc :=
    if 1 < workers then plan.runPooled (scheduler plan events) workers
    else plan.runSerial events
  match proc (plan.noTallies, env) with
  | (outcome, (tallies, env)) => (outcome.map fun _ => tallies, (manager, env))

/-- Run all events, with a given scheduler for a pool of workers. -/
def runWith (scheduler : Scheduler κ ω) (host : Host) (settings : Settings) :
    Proc (Manager κ ω × Env ω) RunReport := do
  expect .initialized "run"
  let workers ← planWorkers host settings
  let events := settings.events
  let seed := settings.seed.getD host.entropy
  let noun := if workers = 1 then "worker" else "workers"
  Proc.log .info
    s!"Running {events} events with {workers} {noun} (random seed {seed})"
  enter .ran
  let (manager, _) ← Proc.get
  let plan : RunPlan κ ω :=
    ⟨manager.instances, manager.messenger, host.source, UInt64.ofNat seed⟩
  let tallies ← processEvents scheduler plan events workers
  Proc.log .info s!"Finished {events} events"
  return RunReport.ofTallies events workers manager.instances tallies

/-- Run all events. -/
def run (host : Host) (settings : Settings) : Proc (Manager κ ω × Env ω) RunReport :=
  runWith RunPlan.runToEnd host settings

end Manager

end DetectorSim
