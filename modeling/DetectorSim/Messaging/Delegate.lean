import DetectorSim.Messaging.Message
import DetectorSim.Identity
import DetectorSim.Hook

/-!
# Delegates

A delegate binds a module instance to a kind of payload.  It has a slot that
takes one message per event, a slot that takes all of them, or a listener that
is called for each.  The delegate of an instance that works for a detector
takes messages for that detector and messages for none, unless it is told to
ignore the name.
-/

set_option autoImplicit false

namespace DetectorSim

/-- How a delegate treats its messages. -/
structure MessageFlags where
  /-- The instance is skipped in events in which this input is missing. -/
  required : Bool
  /-- A message may replace another one in the same event. -/
  allowOverwrite : Bool
  /-- Messages for other detectors are taken as well. -/
  ignoreName : Bool
  deriving DecidableEq, Repr, Inhabited

namespace MessageFlags

/-- No flag at all. -/
def none : MessageFlags := ⟨false, false, false⟩

/-- The input is required. -/
def requiredInput : MessageFlags := ⟨true, false, false⟩

/-- Overwriting is allowed. -/
def overwriting : MessageFlags := ⟨false, true, false⟩

/-- Names are ignored. -/
def anyName : MessageFlags := ⟨false, false, true⟩

/-- The flags of either side. -/
def union (a b : MessageFlags) : MessageFlags :=
  ⟨a.required || b.required, a.allowOverwrite || b.allowOverwrite,
    a.ignoreName || b.ignoreName⟩

/-- Whether all flags of `b` are set in `a`. -/
def contains (a b : MessageFlags) : Bool :=
  (a.required || !b.required) && (a.allowOverwrite || !b.allowOverwrite)
    && (a.ignoreName || !b.ignoreName)

end MessageFlags

/-- A module instance as the messenger knows it. -/
structure Receiver where
  id : InstanceId
  /-- The display name of the instance. -/
  name : String
  detector : Option Detector
  deriving Inhabited

/-- The place of a slot: the instance that owns it, and its number there. -/
structure SlotRef where
  owner : InstanceId
  index : Nat
  deriving DecidableEq, Repr, Inhabited

/-- A slot for at most one message of a kind per event. -/
structure SingleSlot (κ : Type) (kind : κ) where
  slot : SlotRef

/-- A slot for all messages of a kind in an event. -/
structure MultiSlot (κ : Type) (kind : κ) where
  slot : SlotRef

/-- The kinds of slots. -/
inductive SlotKind where
  | single
  | multi
  | listener
  deriving DecidableEq, Repr, Inhabited

namespace SlotKind

/-- The name of a kind of slots in the log. -/
def label : SlotKind → String
  | .single => "single"
  | .multi => "multi"
  | .listener => "listener"

end SlotKind

/-- What a delegate does with a message. -/
inductive DelegateKind (κ ω : Type) [Payload κ] where
  | single
  | multi
  | listener (callback : AnyMessage κ → Hook ω Unit)

namespace DelegateKind

variable {κ ω : Type} [Payload κ]

/-- The kind of slot that a delegate has. -/
def slotKind : DelegateKind κ ω → SlotKind
  | .single => .single
  | .multi => .multi
  | .listener _ => .listener

end DelegateKind

/-- A binding of an instance to a kind of payload. -/
structure Delegate (κ ω : Type) [Payload κ] where
  receiver : Receiver
  /-- The number of the slot among those of the receiver. -/
  slot : Nat
  flags : MessageFlags
  kind : DelegateKind κ ω

namespace Delegate

variable {κ ω : Type} [Payload κ]

/-- Whether a message for a detector, or for none, is taken. -/
def accepts (delegate : Delegate κ ω) (detector : Option Detector) : Bool :=
  match detector, delegate.receiver.detector with
  | some theirs, some own =>
      theirs.name = own.name || delegate.flags.contains .anyName
  | _, _ => true

end Delegate

/-- What is needed to remove a delegate again: its kind of payload, the name of
its detector, and its number among the delegates with both. -/
structure DelegateHandle (κ : Type) where
  kind : κ
  detectorKey : String
  index : Nat
  deriving DecidableEq, Inhabited

/-- A listener for one kind of payload as a listener for any message. -/
def listenerFor {κ ω : Type} [Payload κ] [DecidableEq κ] (receiverName : String) (kind : κ)
    (callback : Message κ kind → Hook ω Unit) (any : AnyMessage κ) : Hook ω Unit :=
  match any.open? kind with
  | some message => callback message
  | none =>
      .fail (.logic s!"listener of {receiverName} received a message of type {any.typeName}")

end DetectorSim
