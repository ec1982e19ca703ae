import DetectorSim.Rehearsal.Channel

/-!
# Roles of a rehearsal

A role is a module type whose instances do what a list of actions says in each
event, and fail where their configuration section says so.
-/

set_option autoImplicit false

namespace DetectorSim.Rehearsal

open Config

/-- Whom a message is for. -/
inductive Destination where
  /-- No detector in particular. -/
  | anyone
  /-- The detector of the instance. -/
  | own
  /-- A detector with a given name, whether it is part of the setup or not. -/
  | named (name : String)
  deriving DecidableEq, Repr, Inhabited

namespace Destination

/-- The detector that a message is for. -/
def detector (geometry : Geometry) (own : Option Detector) : Destination → Option Detector
  | .anyone => none
  | .own => own
  | .named name => some ((geometry.find? name).getD (.atOrigin name ""))

end Destination

/-- What an instance does in an event. -/
inductive Deed where
  /-- Dispatch a number that depends on the event linearly. -/
  | dispatch (channel : Channel) (target : Destination) (factor offset : Int)
  /-- Note whether a message would be taken. -/
  | probe (channel : Channel) (target : Destination)
  /-- Note what the slots hold. -/
  | read
  deriving DecidableEq, Repr, Inhabited

/-- A deed, in all events or in those with a given remainder. -/
structure Action where
  /-- The divisor of the event number and the remainder. -/
  condition : Option (Nat × Nat)
  deed : Deed
  deriving DecidableEq, Repr, Inhabited

/-- A module type of a rehearsal. -/
structure Role where
  name : String
  scope : Scope
  safety : ThreadSafety
  bindings : List Binding
  /-- Keys whose numbers are noted. -/
  keys : List String
  actions : List Action
  deriving DecidableEq, Repr, Inhabited

/-- The steps in the life of an instance in which it may fail. -/
inductive Scene where
  | construction
  | init
  | threadInit
  | threadFinalize
  | finalize
  deriving DecidableEq, Repr, Inhabited

namespace Scene

/-- All scenes, in the order in which their keys are read. -/
def all : List Scene :=
  [.construction, .init, .threadInit, .threadFinalize, .finalize]

/-- The name of a scene in notes. -/
def label : Scene → String
  | .construction => "constructed"
  | .init => "init"
  | .threadInit => "thread_init"
  | .threadFinalize => "thread_final"
  | .finalize => "finalize"

/-- The key with the text of the failure in a scene. -/
def key : Scene → String
  | .construction => "fail_construction"
  | .init => "fail_init"
  | .threadInit => "fail_thread_init"
  | .threadFinalize => "fail_thread_final"
  | .finalize => "fail_finalize"

end Scene

/-- Where an instance fails. -/
structure Mishaps where
  scenes : List (Scene × Option String)
  /-- The event in which the instance fails. -/
  failAt : Option Nat
  /-- The event in which the instance panics. -/
  panicAt : Option Nat
  /-- Whether failures are breaches of contract. -/
  logic : Bool
  /-- Whether only the first failure happens. -/
  once : Bool
  deriving DecidableEq, Repr, Inhabited

namespace Mishaps

/-- Read the failures in the scenes. -/
def readScenes (s : Section) : List Scene → Except Error (List (Scene × Option String))
  | [] => .ok []
  | scene :: rest => do
      let text ← s.get? scene.key .string
      let others ← readScenes s rest
      return (scene, text) :: others

/-- Read where an instance fails. -/
def ofSection (s : Section) : Except Error Mishaps := do
  let scenes ← readScenes s Scene.all
  let failAt ← s.get? "fail_at" .natural
  let panicAt ← s.get? "panic_at" .natural
  let logic ← s.getOr "fail_logic" .bool false
  let once ← s.getOr "fail_once" .bool false
  return ⟨scenes, failAt, panicAt, logic, once⟩

/-- Fail, unless the instance has failed before and fails only once. -/
def fail (mishaps : Mishaps) (id : InstanceId) (text : String) : Hook Notebook Unit := do
  let notebook ← Hook.world
  if mishaps.once && notebook.failed.contains id then return ()
  Hook.update fun notebook => { notebook with failed := id :: notebook.failed }
  .fail (if mishaps.logic then .logic text else .runtime text)

/-- Play a scene. -/
def play (mishaps : Mishaps) (site : Site) (scene : Scene) : Hook Notebook Unit := do
  Notebook.write [.string scene.label, .string site.identifier.display]
  match (mishaps.scenes.lookup scene).join with
  | none => return ()
  | some text => mishaps.fail site.receiver.id text

end Mishaps

namespace Role

/-- The note that an instance is given up. -/
def drop (site : Site) : Hook Notebook Unit :=
  Notebook.write [.string "drop", .string site.identifier.display]

/-- Write a note about an event. -/
def tell (site : Site) (what : String) (event : Nat) (seen : Note) :
    EventCode Channel Notebook Unit :=
  EventCode.ofHook (Notebook.write
    ([.string what, .string site.identifier.display, .string (toString event)] ++ seen))

/-- The events that an instance ran in, in the order of the notes. -/
def eventsRun (name : String) (notes : List Note) : List String :=
  notes.filterMap fun note =>
    match note with
    | [.string "run", .string other, .string event] => if other == name then some event else none
    | _ => none

/-- Do a deed. -/
def perform (geometry : Geometry) (site : Site) (inlets : List Inlet) (event : Nat) :
    Deed → EventCode Channel Notebook Unit
  | .dispatch channel target factor offset =>
      EventCode.dispatch channel (event * factor + offset : Int)
        (target.detector geometry site.receiver.detector)
  | .probe channel target => do
      let found ← EventCode.hasReceiver channel (0 : Int)
        (target.detector geometry site.receiver.detector)
      tell site "has" event [.bool found]
  | .read => do
      let contents ← Routine.collect Inlet.read inlets
      tell site "read" event [.array contents]

/-- Whether an action is taken in an event. -/
def applies (event : Nat) (action : Action) : Bool :=
  match action.condition with
  | none => true
  | some (divisor, remainder) => event % divisor == remainder

/-- What an instance does in an event. -/
def run (role : Role) (geometry : Geometry) (mishaps : Mishaps) (site : Site)
    (inlets : List Inlet) : EventCode Channel Notebook Unit := do
  let event ← EventCode.number
  tell site "run" event []
  if mishaps.panicAt = some event then
    .panic s!"{site.identifier.display} panicked in event {event}"
  Routine.each (fun action => perform geometry site inlets event action.deed)
    (role.actions.filter (applies event))
  if mishaps.failAt = some event then
    EventCode.ofHook (mishaps.fail site.receiver.id "failed as configured")

/-- Note the number of a key. -/
def noteKey (s : Section) (site : Site) (key : String) :
    Construction Channel Notebook Unit := do
  let value ← Routine.ofExcept (s.get key (.integer .u32))
  Construction.ofHook (Notebook.write
    [.string "key", .string site.identifier.display, .string key, .integer value])

/-- Play the scene of construction.  An instance that fails there is given up
at once. -/
def playConstruction (mishaps : Mishaps) (site : Site) : Hook Notebook Unit :=
  Hook.orElse (mishaps.play site .construction) (drop site)

/-- Construct an instance. -/
def construct (role : Role) (geometry : Geometry) (s : Section) (site : Site) :
    Construction Channel Notebook (Module Channel Notebook) := do
  let name := Json.string site.identifier.display
  Construction.ofHook (Notebook.write
    [.string "construct", name, .string site.receiver.id.display,
      .string site.receiver.name, detectorName site.receiver.detector,
      .integer site.identifier.priority.classNumber])
  let inlets ← Routine.collect (fun binding => binding.make name) role.bindings
  Routine.each (noteKey s site) role.keys
  let mishaps ← Routine.ofExcept (Mishaps.ofSection s)
  Construction.ofHook (playConstruction mishaps site)
  return {
    safety := role.safety
    init := mishaps.play site .init
    threadInit := mishaps.play site .threadInit
    run := role.run geometry mishaps site inlets
    threadFinalize := mishaps.play site .threadFinalize
    finalize := mishaps.play site .finalize
    release := drop site }

/-- The module type of a role in a setup. -/
def descriptor (role : Role) (geometry : Geometry) : Descriptor Channel Notebook :=
  ⟨role.name,
    match role.scope with
    | .unique => .unique fun s site _ => role.construct geometry s site
    | .perDetector => .perDetector fun s site _ => role.construct geometry s site⟩

end Role

end DetectorSim.Rehearsal
