import DetectorSim.Builtin.Payload
import DetectorSim.Builtin.Workspace
import DetectorSim.Rehearsal.Role

/-!
# Benches for the built-in modules

The built-in modules can be tried out on their own.  An injector feeds given
payloads into their chain, and a recorder keeps every payload that was
dispatched, event by event.
-/

set_option autoImplicit false

namespace DetectorSim.Rehearsal

open Builtin

/-- The data of a payload of any kind. -/
abbrev AnyData : Type :=
  (kind : PayloadKind) × kind.Data

/-- A payload that is fed into the chain. -/
structure Injection where
  payload : AnyData
  destination : Destination
  /-- The only event in which it is fed. -/
  event : Option Nat

/-- All payloads of an event. -/
structure Recording where
  event : Nat
  deposited : List (Message PayloadKind .deposited)
  propagated : List (Message PayloadKind .propagated)
  hits : List (Message PayloadKind .hits)

/-- The workspace of the built-in modules and the recordings, the newest one
first. -/
structure Bench where
  workspace : Workspace
  recordings : List Recording

instance : HasWorkspace Bench where
  workspace := Bench.workspace
  withWorkspace workspace bench := { bench with workspace }

namespace Bench

/-- A bench with some files, before anything happens on it. -/
def ofFiles (files : FileStore) : Bench :=
  ⟨.ofFiles files, []⟩

/-- Feed a payload. -/
def inject (geometry : Geometry) (injection : Injection) :
    EventCode PayloadKind Bench Unit := do
  let event ← EventCode.number
  if injection.event.getD event = event then
    EventCode.dispatch injection.payload.1 injection.payload.2
      (injection.destination.detector geometry none)

/-- Record an event. -/
def record (deposited : MultiSlot PayloadKind .deposited)
    (propagated : MultiSlot PayloadKind .propagated) (hits : MultiSlot PayloadKind .hits) :
    EventCode PayloadKind Bench Unit := do
  let event ← EventCode.number
  let recording : Recording :=
    ⟨event, ← EventCode.multi deposited, ← EventCode.multi propagated, ← EventCode.multi hits⟩
  let _ ← EventCode.update fun bench =>
    { bench with recordings := recording :: bench.recordings }

/-- The module type that feeds payloads. -/
def injector (injections : List Injection) : Descriptor PayloadKind Bench :=
  ⟨"Inject", .unique fun _ _ geometry =>
    return { (Module.idle : Module PayloadKind Bench) with
      safety := .threadSafe
      run := Routine.each (inject geometry) injections }⟩

/-- The module type that records payloads. -/
def recorder : Descriptor PayloadKind Bench :=
  ⟨"Collect", .unique fun _ _ _ => do
    let deposited ← Construction.bindMulti PayloadKind.deposited .none
    let propagated ← Construction.bindMulti PayloadKind.propagated .none
    let hits ← Construction.bindMulti PayloadKind.hits .none
    return { (Module.idle : Module PayloadKind Bench) with
      safety := .sequential
      run := record deposited propagated hits }⟩

end Bench

end DetectorSim.Rehearsal
