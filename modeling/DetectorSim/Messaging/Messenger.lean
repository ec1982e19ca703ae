import DetectorSim.Messaging.Store

/-!
# The messenger

The messenger knows all delegates.  They are grouped by kind of payload and,
within a kind, by the name of the detector of their owner; instances that work
for no detector come first.  A message is given to the accepting delegates of
its kind in the order of these names, and within one name in the order in which
the delegates were bound.

A removed delegate leaves an empty place behind, so the handles of the others
stay valid and a handle never refers to a later delegate.

The number of the delegates that a message was given to is only written to the log.
It has 32 bits; that no message has 2 ^ 31 delegates is taken for granted.
-/

set_option autoImplicit false

namespace DetectorSim

/-- The delegates for one kind of payload, by the name of the detector of their
owner.  A removed delegate leaves `none` behind. -/
abbrev DelegateLists (κ ω : Type) [Payload κ] : Type :=
  Table String (List (Option (Delegate κ ω)))

/-- All delegates, the handles that each instance got, and the shapes of the
slots of each instance. -/
structure Messenger (κ ω : Type) [Payload κ] where
  delegates : Table κ (DelegateLists κ ω)
  owned : Table InstanceId (List (DelegateHandle κ))
  layouts : Table InstanceId (List (SlotLayout κ))

namespace Messenger

variable {κ ω : Type} [Payload κ]

/-- A messenger without delegates. -/
def empty : Messenger κ ω :=
  ⟨.empty, .empty, .empty⟩

/-- The delegates of a table that are still there, in order. -/
def live (lists : DelegateLists κ ω) : List (Delegate κ ω) :=
  lists.entries.flatMap fun entry => entry.2.filterMap id

/-- The number of delegates. -/
def delegateCount (messenger : Messenger κ ω) : Nat :=
  messenger.delegates.values.foldl (fun count lists => count + (live lists).length) 0

/-- The name under which the delegates of a receiver are kept. -/
def detectorKey (receiver : Receiver) : String :=
  match receiver.detector with
  | some detector => detector.name
  | none => ""

/-- An empty store for an event. -/
def newStore (messenger : Messenger κ ω) (event : Nat) : MessageStore κ :=
  .ofLayouts event messenger.layouts

/-- The kinds of payload of the required inputs of an instance that got
nothing. -/
def missingRequired (messenger : Messenger κ ω) (owner : InstanceId)
    (store : MessageStore κ) : List κ :=
  ((messenger.layouts.find? owner).getD []).zipIdx.filterMap fun (layout, index) =>
    if layout.active && layout.flags.contains .requiredInput
        && !store.received ⟨owner, index⟩ then
      some layout.payload
    else none

variable [DecidableEq κ]

/-! ## Binding -/

/-- The slot that a receiver gets next. -/
def nextSlot (messenger : Messenger κ ω) (receiver : Receiver) : SlotRef :=
  ⟨receiver.id, ((messenger.layouts.find? receiver.id).getD []).length⟩

/-- The handle of the delegate that a receiver gets next for a kind. -/
def nextHandle (messenger : Messenger κ ω) (receiver : Receiver) (kind : κ) :
    DelegateHandle κ :=
  let key := detectorKey receiver
  let lists := (messenger.delegates.find? kind).getD .empty
  ⟨kind, key, ((lists.find? key).getD []).length⟩

/-- Add a delegate. -/
def bind (messenger : Messenger κ ω) (receiver : Receiver) (kind : κ)
    (flags : MessageFlags) (delegateKind : DelegateKind κ ω) : Messenger κ ω :=
  let delegate : Delegate κ ω :=
    ⟨receiver, (messenger.nextSlot receiver).index, flags, delegateKind⟩
  let layout : SlotLayout κ := ⟨delegateKind.slotKind, flags, kind, true⟩
  { delegates := messenger.delegates.alter kind .empty fun lists =>
      lists.alterSorted textBefore (detectorKey receiver) [] (· ++ [some delegate])
    owned := messenger.owned.alter receiver.id [] (· ++ [messenger.nextHandle receiver kind])
    layouts := messenger.layouts.alter receiver.id [] (· ++ [layout]) }

/-! ## Removing -/

/-- The place that a handle refers to. -/
def place? (messenger : Messenger κ ω) (handle : DelegateHandle κ) :
    Option (Option (Delegate κ ω)) :=
  ((messenger.delegates.find? handle.kind).bind fun lists =>
    lists.find? handle.detectorKey).bind fun list => list[handle.index]?

/-- Empty the place that a handle refers to. -/
def clear (messenger : Messenger κ ω) (handle : DelegateHandle κ) : Messenger κ ω :=
  { messenger with
    delegates := messenger.delegates.change handle.kind fun lists =>
      lists.change handle.detectorKey fun list => list.set handle.index none }

/-- Stop asking for messages in a slot. -/
def deactivate (messenger : Messenger κ ω) (ref : SlotRef) : Messenger κ ω :=
  { messenger with
    layouts := messenger.layouts.change ref.owner fun slots =>
      slots.modify ref.index fun layout => { layout with active := false } }

/-- Remove one delegate by its handle. -/
def remove (messenger : Messenger κ ω) (handle : DelegateHandle κ) :
    Except Error (Messenger κ ω) :=
  match messenger.place? handle with
  | none => .error (.logic "delegate handle does not belong to this messenger")
  | some none => .error (.logic "delegate was already removed")
  | some (some delegate) =>
      .ok ((messenger.clear handle).deactivate ⟨delegate.receiver.id, delegate.slot⟩)

/-- Empty the places of some handles and count those that held a delegate. -/
def clearAll (messenger : Messenger κ ω) :
    List (DelegateHandle κ) → Nat × Messenger κ ω
  | [] => (0, messenger)
  | handle :: rest =>
      match messenger.place? handle with
      | some (some _) =>
          match (messenger.clear handle).clearAll rest with
          | (removed, messenger) => (removed + 1, messenger)
      | _ => messenger.clearAll rest

/-- Remove all delegates of an instance and count them. -/
def removeAll (messenger : Messenger κ ω) (owner : InstanceId) : Nat × Messenger κ ω :=
  match messenger.clearAll ((messenger.owned.find? owner).getD []) with
  | (removed, cleared) =>
      (removed,
        { cleared with
          owned := cleared.owned.erase owner
          layouts := cleared.layouts.erase owner })

/-! ## Dispatching -/

/-- The delegates that take a message, in the order in which they get it. -/
def accepting (messenger : Messenger κ ω) (message : AnyMessage κ) :
    List (Delegate κ ω) :=
  match messenger.delegates.find? message.kind with
  | none => []
  | some lists => (live lists).filter fun delegate => delegate.accepts message.detector

/-- Call the listener of a delegate, if it has one. -/
def callListener (delegate : Delegate κ ω) (message : AnyMessage κ) :
    Proc (Env ω) Unit :=
  match delegate.kind with
  | .listener callback =>
      (Hook.exec (callback message)).mapError fun err =>
        err.inModule delegate.receiver.name .run
  | _ => Proc.done ()

/-- Give a message to one delegate. -/
def serve (message : AnyMessage κ) (delegate : Delegate κ ω) :
    Proc (MessageStore κ × Env ω) Unit := fun (store, env) =>
  match callListener delegate message env with
  | (.ok (), env) =>
      match store.deliver delegate message with
      | .ok store => (.ok (), (store, env))
      | .error err => (.error err, (store, env))
  | (.error err, env) => (.error err, (store, env))
  | (.panic text, env) => (.panic text, (store, env))

/-- Give a message to all delegates that take it.  The first failure ends the
dispatch. -/
def dispatch (messenger : Messenger κ ω) (source : Receiver) (message : AnyMessage κ) :
    Proc (MessageStore κ × Env ω) Unit :=
  if messenger.delegates.contains message.kind then do
    let accepting := messenger.accepting message
    Proc.each (serve message) accepting
    let (store, _) ← Proc.get
    Proc.log .trace
      (s!"{source.name} dispatched {message.typeName} to {accepting.length} delegates"
        ++ s!" in event {store.event}")
  else
    Proc.log .trace s!"{source.name} dispatched {message.typeName} without receivers"

/-- Whether a delegate would take a message. -/
def hasReceiver (messenger : Messenger κ ω) (message : AnyMessage κ) : Bool :=
  match messenger.delegates.find? message.kind with
  | none => false
  | some lists => (live lists).any fun delegate => delegate.accepts message.detector

/-! ## Operations with notes in the log -/

section Logged

variable {τ : Type} [HasJournal τ]

/-- Add a delegate, with a note in the log. -/
def bindLogged (receiver : Receiver) (kind : κ) (flags : MessageFlags)
    (delegateKind : DelegateKind κ ω) :
    Proc (Messenger κ ω × τ) (SlotRef × DelegateHandle κ) := do
  Proc.log .debug
    (s!"Binding {delegateKind.slotKind.label} delegate for {Payload.typeName kind}"
      ++ s!" to {receiver.name}")
  fun (messenger, rest) =>
    (.ok (messenger.nextSlot receiver, messenger.nextHandle receiver kind),
      (messenger.bind receiver kind flags delegateKind, rest))

/-- Bind a slot for at most one message per event. -/
def bindSingle (receiver : Receiver) (kind : κ) (flags : MessageFlags) :
    Proc (Messenger κ ω × τ) (SingleSlot κ kind) := do
  let (slot, _) ← bindLogged receiver kind flags .single
  return ⟨slot⟩

/-- Bind a slot for all messages of an event. -/
def bindMulti (receiver : Receiver) (kind : κ) (flags : MessageFlags) :
    Proc (Messenger κ ω × τ) (MultiSlot κ kind) := do
  let (slot, _) ← bindLogged receiver kind flags .multi
  return ⟨slot⟩

/-- Bind a listener that is called while a message is dispatched. -/
def listen (receiver : Receiver) (kind : κ) (flags : MessageFlags)
    (callback : Message κ kind → Hook ω Unit) :
    Proc (Messenger κ ω × τ) (DelegateHandle κ) := do
  let (_, handle) ← bindLogged receiver kind flags
    (.listener (listenerFor receiver.name kind callback))
  return handle

/-- Remove all delegates of an instance, with a note in the log. -/
def removeAllLogged (owner : InstanceId) : Proc (Messenger κ ω × τ) Nat := do
  let removed ← fun (messenger, rest) =>
    match messenger.removeAll owner with
    | (removed, messenger) => (.ok removed, (messenger, rest))
  Proc.log .trace s!"Removed {removed} delegates of instance {owner.display}"
  return removed

/-- Whether a delegate would take a message, with a note in the log. -/
def hasReceiverLogged (messenger : Messenger κ ω) (source : Receiver)
    (message : AnyMessage κ) : Proc τ Bool := do
  let found := messenger.hasReceiver message
  Proc.log .trace
    s!"{source.name} checked receivers for {message.typeName}: {found}"
  return found

end Logged

end Messenger

end DetectorSim
