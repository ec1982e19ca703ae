import DetectorSim.Messaging.Delegate

/-!
# The messages of an event

Every event has a store with an empty slot for each delegate that is bound when
the event starts.  Events never share a store.
-/

set_option autoImplicit false

namespace DetectorSim

/-- The shape of a slot, fixed when its delegate is bound.  It stops being
active when the delegate is removed by its handle. -/
structure SlotLayout (κ : Type) where
  kind : SlotKind
  flags : MessageFlags
  payload : κ
  active : Bool
  deriving Inhabited

/-- The content of a slot. -/
inductive SlotState (κ : Type) [Payload κ] where
  /-- The message that came last, if any. -/
  | single (held : Option (AnyMessage κ))
  /-- All messages, in order. -/
  | multi (held : List (AnyMessage κ))
  /-- How often the listener was called with success. -/
  | listener (calls : Nat)

namespace SlotState

variable {κ : Type} [Payload κ]

/-- A slot before the first message. -/
def empty : SlotKind → SlotState κ
  | .single => .single none
  | .multi => .multi []
  | .listener => .listener 0

/-- Whether a slot got a message. -/
def received : SlotState κ → Bool
  | .single held => held.isSome
  | .multi held => !held.isEmpty
  | .listener calls => 0 < calls

end SlotState

/-- The messages that the instances got during an event. -/
structure MessageStore (κ : Type) [Payload κ] where
  event : Nat
  inboxes : Table InstanceId (List (SlotState κ))

namespace MessageStore

variable {κ ω : Type} [Payload κ]

/-- A store with empty slots of given shapes. -/
def ofLayouts (event : Nat) (layouts : Table InstanceId (List (SlotLayout κ))) :
    MessageStore κ :=
  ⟨event, ⟨layouts.entries.map fun entry =>
    (entry.1, entry.2.map fun layout => SlotState.empty layout.kind)⟩⟩

/-- The content of a slot. -/
def state? (store : MessageStore κ) (ref : SlotRef) : Option (SlotState κ) :=
  (store.inboxes.find? ref.owner).bind fun slots => slots[ref.index]?

/-- Whether a slot got a message. -/
def received (store : MessageStore κ) (ref : SlotRef) : Bool :=
  match store.state? ref with
  | some state => state.received
  | none => false

/-- Replace the content of a slot. -/
def put (store : MessageStore κ) (ref : SlotRef) (state : SlotState κ) : MessageStore κ :=
  { store with
    inboxes := store.inboxes.change ref.owner fun slots => slots.set ref.index state }

/-- The content of the slot of a delegate after a message. -/
def accept (event : Nat) (delegate : Delegate κ ω) (message : AnyMessage κ) :
    SlotState κ → Except Error (SlotState κ)
  | .single held =>
      if held.isSome && !delegate.flags.contains .overwriting then
        .error (.messageOverwrite delegate.receiver.name message.typeName event)
      else .ok (.single (some message))
  | .multi held => .ok (.multi (held ++ [message]))
  | .listener calls => .ok (.listener (calls + 1))

/-- Put a message into the slot of a delegate, or count the call of its
listener. -/
def deliver (store : MessageStore κ) (delegate : Delegate κ ω) (message : AnyMessage κ) :
    Except Error (MessageStore κ) :=
  let ref : SlotRef := ⟨delegate.receiver.id, delegate.slot⟩
  match store.state? ref with
  | none =>
      .error (.logic
        (s!"module {delegate.receiver.name} has no message slot {delegate.slot}"
          ++ s!" in event {store.event}"))
  | some state =>
      match accept store.event delegate message state with
      | .ok state => .ok (store.put ref state)
      | .error err => .error err

variable [DecidableEq κ]

/-- The message in a slot for one message. -/
def single {kind : κ} (store : MessageStore κ) (slot : SingleSlot κ kind) :
    Option (Message κ kind) :=
  match store.state? slot.slot with
  | some (.single (some message)) => message.open? kind
  | _ => none

/-- The messages in a slot for all messages, in the order in which they
came. -/
def multi {kind : κ} (store : MessageStore κ) (slot : MultiSlot κ kind) :
    List (Message κ kind) :=
  match store.state? slot.slot with
  | some (.multi messages) => messages.filterMap fun message => message.open? kind
  | _ => []

end MessageStore

end DetectorSim
