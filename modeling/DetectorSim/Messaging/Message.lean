import DetectorSim.Geometry

/-!
# Messages

Modules exchange messages.  The kinds of payload form a family: each kind has a
type of data and a name.  A message is immutable; inside the messenger its kind
is carried along, and its data is only given out to code that asks for exactly
that kind.
-/

set_option autoImplicit false

namespace DetectorSim

/-- A family of kinds of payload. -/
class Payload (κ : Type) where
  /-- The data of a message of some kind. -/
  Data : κ → Type
  /-- The name of a kind in the log and in errors. -/
  typeName : κ → String

/-- What tells a message from all others: where it was composed, and as the
how manieth one there. -/
structure MessageId where
  origin : Nat
  serial : Nat
  deriving DecidableEq, Repr, Inhabited

/-- A message of a given kind, for one detector or for none in particular. -/
structure Message (κ : Type) [Payload κ] (kind : κ) where
  id : MessageId
  data : Payload.Data kind
  detector : Option Detector

/-- A message together with its kind. -/
structure AnyMessage (κ : Type) [Payload κ] where
  kind : κ
  message : Message κ kind

namespace AnyMessage

variable {κ : Type} [Payload κ]

/-- The detector that a message is for. -/
def detector (any : AnyMessage κ) : Option Detector :=
  any.message.detector

/-- The name of the kind of a message. -/
def typeName (any : AnyMessage κ) : String :=
  Payload.typeName any.kind

variable [DecidableEq κ]

/-- The message, if it is of a given kind. -/
def open? (any : AnyMessage κ) (kind : κ) : Option (Message κ kind) :=
  if h : any.kind = kind then some (h ▸ any.message) else none

/-- A message opens at its own kind. -/
@[simp] theorem open?_self (kind : κ) (message : Message κ kind) :
    (AnyMessage.mk kind message).open? kind = some message := by
  simp [open?]

/-- A message opens at no other kind. -/
theorem open?_eq_none {any : AnyMessage κ} {kind : κ} (h : any.kind ≠ kind) :
    any.open? kind = none := by
  simp [open?, h]

end AnyMessage

/-- Composes messages, each with an id of its own. -/
structure Composer where
  origin : Nat
  serial : Nat
  deriving DecidableEq, Repr, Inhabited

namespace Composer

variable {κ : Type} [Payload κ]

/-- A composer that has composed nothing. -/
def start (origin : Nat) : Composer :=
  ⟨origin, 0⟩

/-- Compose a message. -/
def compose (composer : Composer) (kind : κ) (data : Payload.Data kind)
    (detector : Option Detector) : Message κ kind × Composer :=
  (⟨⟨composer.origin, composer.serial⟩, data, detector⟩,
    { composer with serial := composer.serial + 1 })

/-- Two messages composed one after the other have different ids. -/
theorem compose_id_ne (composer : Composer) {kind other : κ} (data : Payload.Data kind)
    (data' : Payload.Data other) (detector detector' : Option Detector) :
    (composer.compose kind data detector).1.id
      ≠ ((composer.compose kind data detector).2.compose other data' detector').1.id := by
  simp [compose]

end Composer

end DetectorSim
