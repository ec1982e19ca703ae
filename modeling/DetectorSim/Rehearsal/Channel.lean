import DetectorSim.Json
import DetectorSim.Module.Basic

/-!
# Channels of a rehearsal

A rehearsal runs a configuration with modules that exchange mere numbers, on
channels that have a name each.  Whatever happens to the modules is noted in a
notebook that they share.
-/

set_option autoImplicit false

namespace DetectorSim.Rehearsal

/-- A kind of payload: a named channel for integers. -/
structure Channel where
  name : String
  deriving DecidableEq, Repr, Inhabited

instance : Payload Channel where
  Data _ := Int
  typeName := Channel.name

/-- An entry of the notebook. -/
abbrev Note : Type :=
  List Json

/-- What the modules of a rehearsal share. -/
structure Notebook where
  /-- The notes, the newest one first. -/
  notes : List Note
  /-- The instances that have failed. -/
  failed : List InstanceId
  deriving Inhabited

namespace Notebook

/-- A notebook without notes. -/
def empty : Notebook :=
  ⟨[], []⟩

/-- The notes after the first `count` ones, in order. -/
def since (notebook : Notebook) (count : Nat) : List Note :=
  (notebook.notes.take (notebook.notes.length - count)).reverse

/-- Write a note. -/
def write (note : Note) : Hook Notebook Unit :=
  Hook.update fun notebook => { notebook with notes := note :: notebook.notes }

end Notebook

/-- The name of a detector, if there is one. -/
def detectorName (detector : Option Detector) : Json :=
  Json.optional (fun detector => .string detector.name) detector

/-- The number in a message. -/
def valueOf {channel : Channel} (message : Message Channel channel) : Int :=
  message.data

/-- A message as a note: its number and the name of its detector. -/
def describe {channel : Channel} (message : Message Channel channel) : Json :=
  .array [.string (toString (valueOf message)), detectorName message.detector]

/-! ## Inlets -/

/-- What a module binds. -/
structure Binding where
  slot : SlotKind
  channel : Channel
  flags : MessageFlags
  /-- The number that a listener refuses. -/
  refused : Option Int
  deriving DecidableEq, Repr, Inhabited

/-- A bound slot. -/
inductive Inlet where
  | single (channel : Channel) (slot : SingleSlot Channel channel)
  | multi (channel : Channel) (slot : MultiSlot Channel channel)
  | listener

namespace Inlet

/-- What a slot holds. -/
def content (store : MessageStore Channel) : Inlet → Json
  | .single _ slot => Json.optional describe (store.single slot)
  | .multi _ slot => .array ((store.multi slot).map describe)
  | .listener => .string "listener"

/-- What a slot of the running instance holds. -/
def read : Inlet → EventCode Channel Notebook Json
  | .single _ slot => do return Json.optional describe (← EventCode.single slot)
  | .multi _ slot => do return .array ((← EventCode.multi slot).map describe)
  | .listener => return .string "listener"

end Inlet

/-- A listener that notes its calls under a name. -/
def listener (name : Json) (refused : Option Int) {channel : Channel}
    (message : Message Channel channel) : Hook Notebook Unit := do
  let value := valueOf message
  Notebook.write
    [.string "listen", name, .string (toString value), detectorName message.detector]
  if refused = some value then .fail (.runtime s!"listener refused {value}")

/-- Make a binding in a factory. -/
def Binding.make (binding : Binding) (name : Json) :
    Construction Channel Notebook Inlet := do
  match binding.slot with
  | .single => return .single _ (← Construction.bindSingle binding.channel binding.flags)
  | .multi => return .multi _ (← Construction.bindMulti binding.channel binding.flags)
  | .listener =>
      let _ ← Construction.listen binding.channel binding.flags (listener name binding.refused)
      return .listener

end DetectorSim.Rehearsal
