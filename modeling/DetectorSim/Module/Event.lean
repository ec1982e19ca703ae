import DetectorSim.Messaging.Messenger
import DetectorSim.Random

/-!
# Code that runs in an event

While an instance runs it can read its slots, compose and dispatch messages,
ask whether a message would be taken, and draw random words.  All of that
belongs to the event; only the operations of hooks reach beyond it.
-/

set_option autoImplicit false

namespace DetectorSim

/-- What the code of a module may ask for while it runs. -/
inductive EventOp (κ ω : Type) [Payload κ] where
  /-- What hooks may ask for. -/
  | hook (op : HookOp ω)
  /-- The number of the event. -/
  | number
  /-- The message in a slot for one message. -/
  | single (kind : κ) (slot : SingleSlot κ kind)
  /-- The messages in a slot for all messages. -/
  | multi (kind : κ) (slot : MultiSlot κ kind)
  /-- A new message. -/
  | compose (kind : κ) (data : Payload.Data kind) (detector : Option Detector)
  /-- Whether a message would be taken by anyone. -/
  | hasReceiver (message : AnyMessage κ)
  /-- Send a message; the reply tells whether that failed. -/
  | dispatch (message : AnyMessage κ)
  /-- The next random word. -/
  | draw

/-- What belongs to one event alone. -/
structure EventData (κ : Type) [Payload κ] where
  store : MessageStore κ
  random : RandomStream
  composer : Composer

/-- What the processing of an event works on. -/
structure EventState (κ ω : Type) [Payload κ] where
  data : EventData κ
  env : Env ω

instance {κ ω : Type} [Payload κ] : HasJournal (EventState κ ω) where
  journal state := state.env.journal
  withJournal journal state :=
    { state with env := HasJournal.withJournal journal state.env }

namespace EventData

variable {κ ω : Type} [Payload κ]

/-- An event before its first instance. -/
def start (messenger : Messenger κ ω) (source : RandomSource) (seed : UInt64)
    (event : Nat) : EventData κ :=
  ⟨messenger.newStore event, .forEvent source seed event, .start event⟩

end EventData

namespace EventState

variable {κ ω α : Type} [Payload κ]

/-- Run a procedure on the environment of an event. -/
def onEnv (proc : Proc (Env ω) α) : Proc (EventState κ ω) α :=
  Proc.zoom EventState.env (fun env state => { state with env }) proc

/-- Run a procedure on the messages and the environment of an event. -/
def onStore (proc : Proc (MessageStore κ × Env ω) α) : Proc (EventState κ ω) α :=
  Proc.zoom (fun state => (state.data.store, state.env))
    (fun (store, env) state => { data := { state.data with store }, env }) proc

end EventState

namespace EventOp

variable {κ ω : Type} [Payload κ]

/-- The reply to an operation. -/
def Reply : EventOp κ ω → Type
  | .hook op => op.Reply
  | .number => Nat
  | .single kind _ => Option (Message κ kind)
  | .multi kind _ => List (Message κ kind)
  | .compose kind _ _ => Message κ kind
  | .hasReceiver _ => Bool
  | .dispatch _ => Except Error Unit
  | .draw => UInt64

/-- A failure as a reply; only a panic goes on. -/
def caught {σ : Type} (proc : Proc σ Unit) : Proc σ (Except Error Unit) := fun state =>
  match proc state with
  | (.ok (), state) => (.ok (.ok ()), state)
  | (.error err, state) => (.ok (.error err), state)
  | (.panic text, state) => (.panic text, state)

variable [DecidableEq κ]

/-- What an operation does when an instance asks for it. -/
def perform (messenger : Messenger κ ω) (receiver : Receiver) :
    (op : EventOp κ ω) → Proc (EventState κ ω) op.Reply
  | .hook op => EventState.onEnv op.perform
  | .number => fun state => (.ok state.data.store.event, state)
  | .single _ slot => fun state => (.ok (state.data.store.single slot), state)
  | .multi _ slot => fun state => (.ok (state.data.store.multi slot), state)
  | .compose kind data detector => fun state =>
      match state.data.composer.compose kind data detector with
      | (message, composer) =>
          (.ok message, { state with data := { state.data with composer } })
  | .hasReceiver message => messenger.hasReceiverLogged receiver message
  | .dispatch message =>
      caught (EventState.onStore (messenger.dispatch receiver message))
  | .draw => fun state =>
      match state.data.random.next with
      | (word, random) => (.ok word, { state with data := { state.data with random } })

end EventOp

/-- Code that a module runs in an event. -/
abbrev EventCode (κ ω α : Type) [Payload κ] : Type :=
  Routine (EventOp κ ω) EventOp.Reply α

namespace EventCode

variable {κ ω α : Type} [Payload κ]

/-- Write a log record. -/
def log (level : Level) (text : String) : EventCode κ ω Unit :=
  .ask (.hook (.log level text)) .done

/-- Change the world; the value is the world before. -/
def update (f : ω → ω) : EventCode κ ω ω :=
  .ask (.hook (.update f)) .done

/-- The thread that the code runs on. -/
def thread : EventCode κ ω ThreadId :=
  .ask (.hook .thread) .done

/-- Run code that hooks may run as well. -/
def ofHook : Hook ω α → EventCode κ ω α
  | .done value => .done value
  | .fail err => .fail err
  | .panic text => .panic text
  | .ask op next => .ask (.hook op) fun reply => ofHook (next reply)

/-- The number of the event. -/
def number : EventCode κ ω Nat :=
  .ask .number .done

/-- The message in a slot for one message. -/
def single {kind : κ} (slot : SingleSlot κ kind) : EventCode κ ω (Option (Message κ kind)) :=
  .ask (.single kind slot) .done

/-- The messages in a slot for all messages. -/
def multi {kind : κ} (slot : MultiSlot κ kind) : EventCode κ ω (List (Message κ kind)) :=
  .ask (.multi kind slot) .done

/-- Whether a message with given data would be taken by anyone. -/
def hasReceiver (kind : κ) (data : Payload.Data kind) (detector : Option Detector) :
    EventCode κ ω Bool :=
  .ask (.compose kind data detector) fun message => .ask (.hasReceiver ⟨kind, message⟩) .done

/-- Send a message with given data.  Its failure is that of the code. -/
def dispatch (kind : κ) (data : Payload.Data kind) (detector : Option Detector) :
    EventCode κ ω Unit :=
  .ask (.compose kind data detector) fun message =>
    .ask (.dispatch ⟨kind, message⟩) Routine.ofExcept

/-- The next random word. -/
def draw : EventCode κ ω UInt64 :=
  .ask .draw .done

variable [DecidableEq κ]

/-- Run code of an instance in an event. -/
def exec (messenger : Messenger κ ω) (receiver : Receiver) (code : EventCode κ ω α) :
    Proc (EventState κ ω) α :=
  Routine.run (EventOp.perform messenger receiver) code

end EventCode

end DetectorSim
