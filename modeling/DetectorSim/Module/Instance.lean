import DetectorSim.Module.Basic

/-!
# Module instances

An instance is a module with its identity.  Each of its calls is made in a log
section of its own, and an error that comes out of a call is wrapped with the
name of the instance and the phase.
-/

set_option autoImplicit false

namespace DetectorSim

/-- A constructed module with its identity. -/
structure Instance (κ ω : Type) [Payload κ] where
  identifier : Identifier
  receiver : Receiver
  module : Module κ ω

/-- How often an instance ran and how often it was skipped. -/
structure Tally where
  runs : Nat
  skipped : Nat
  deriving DecidableEq, Repr, Inhabited

namespace Tally

/-- Neither run nor skipped. -/
def zero : Tally := ⟨0, 0⟩

/-- Count an event in which the instance ran or was skipped. -/
def count (tally : Tally) (ran : Bool) : Tally :=
  if ran then { tally with runs := tally.runs + 1 }
  else { tally with skipped := tally.skipped + 1 }

end Tally

namespace Instance

variable {κ ω : Type} [Payload κ]

/-- The name of an instance as the user reads it. -/
def name (inst : Instance κ ω) : String :=
  inst.identifier.display

/-- Make a call of an instance. -/
def call {σ α : Type} [HasJournal σ] (inst : Instance κ ω) (letter : String) (phase : Phase)
    (proc : Proc σ α) : Proc σ α :=
  Proc.within (letter ++ ":" ++ inst.name)
    (proc.mapError fun err => err.inModule inst.name phase)

/-- Initialize an instance. -/
def init (inst : Instance κ ω) : Proc (Env ω) Unit :=
  inst.call "I" .init (Hook.exec inst.module.init)

/-- Initialize an instance on a worker. -/
def threadInit (inst : Instance κ ω) : Proc (Env ω) Unit :=
  inst.call "I" .threadInit (Hook.exec inst.module.threadInit)

/-- Finalize an instance on a worker. -/
def threadFinalize (inst : Instance κ ω) : Proc (Env ω) Unit :=
  inst.call "F" .threadFinalize (Hook.exec inst.module.threadFinalize)

/-- Finalize an instance. -/
def finalize (inst : Instance κ ω) : Proc (Env ω) Unit :=
  inst.call "F" .finalize (Hook.exec inst.module.finalize)

/-- Give up an instance, whatever comes of it. -/
def release (inst : Instance κ ω) (env : Env ω) : Env ω :=
  (Hook.exec inst.module.release env).2

variable [DecidableEq κ]

/-- Run an instance in an event, unless one of its required inputs got nothing.
The value tells whether it ran. -/
def runEvent (inst : Instance κ ω) (messenger : Messenger κ ω) :
    Proc (EventState κ ω) Bool := fun state =>
  match messenger.missingRequired inst.receiver.id state.data.store with
  | [] =>
      (do
        inst.call "R" .run (EventCode.exec messenger inst.receiver inst.module.run)
        return true : Proc (EventState κ ω) Bool) state
  | missing =>
      let types := ", ".intercalate (missing.map Payload.typeName)
      (do
        Proc.log .debug
          (s!"Skipping {inst.name} in event {state.data.store.event}: "
            ++ s!"no message of required type {types}")
        return false : Proc (EventState κ ω) Bool) state

/-- Offer an event to the instance with a given index and count what it
did. -/
def offer (inst : Instance κ ω) (messenger : Messenger κ ω) (index : Nat) :
    Proc (List Tally × EventState κ ω) Unit := fun (tallies, state) =>
  match inst.runEvent messenger state with
  | (.ok ran, state) => (.ok (), (tallies.modify index fun tally => tally.count ran, state))
  | (.error err, state) => (.error err, (tallies, state))
  | (.panic text, state) => (.panic text, (tallies, state))

end Instance

end DetectorSim
