import DetectorSim.Module.Event

/-!
# Modules

A module is a unit of simulation work.  Its factory is called once for every
instance and is the only place where inputs are bound.  Afterwards the hooks of
the instance are called in the order of its life.
-/

set_option autoImplicit false

namespace DetectorSim

open Config

/-- How the runs of an instance may be spread over threads. -/
inductive ThreadSafety where
  /-- Runs must never overlap; all events are then processed on one thread. -/
  | notThreadSafe
  /-- Runs for several events may overlap. -/
  | threadSafe
  /-- Runs may be on any thread but have to see the events in order. -/
  | sequential
  deriving DecidableEq, Repr, Inhabited

/-- The hooks of a module instance. -/
structure Module (κ ω : Type) [Payload κ] where
  safety : ThreadSafety
  /-- Called once before the first event. -/
  init : Hook ω Unit
  /-- Called on every worker before its first event. -/
  threadInit : Hook ω Unit
  /-- Called for every event in which no required input is missing. -/
  run : EventCode κ ω Unit
  /-- Called on every worker after its last event. -/
  threadFinalize : Hook ω Unit
  /-- Called once after the last event. -/
  finalize : Hook ω Unit
  /-- Called when the instance is given up. -/
  release : Hook ω Unit

namespace Module

/-- A module that does nothing. -/
def idle {κ ω : Type} [Payload κ] : Module κ ω :=
  ⟨.notThreadSafe, .done (), .done (), .done (), .done (), .done (), .done ()⟩

end Module

/-- What a factory may ask for. -/
inductive FactoryOp (κ ω : Type) [Payload κ] where
  /-- What hooks may ask for. -/
  | hook (op : HookOp ω)
  /-- Bind a slot for one message. -/
  | bindSingle (kind : κ) (flags : MessageFlags)
  /-- Bind a slot for all messages. -/
  | bindMulti (kind : κ) (flags : MessageFlags)
  /-- Bind a listener. -/
  | listen (kind : κ) (flags : MessageFlags) (callback : Message κ kind → Hook ω Unit)

namespace FactoryOp

variable {κ ω : Type} [Payload κ]

/-- The reply to an operation. -/
def Reply : FactoryOp κ ω → Type
  | .hook op => op.Reply
  | .bindSingle kind _ => SingleSlot κ kind
  | .bindMulti kind _ => MultiSlot κ kind
  | .listen .. => DelegateHandle κ

variable [DecidableEq κ]

/-- What an operation does when the factory of an instance asks for it. -/
def perform (receiver : Receiver) :
    (op : FactoryOp κ ω) → Proc (Messenger κ ω × Env ω) op.Reply
  | .hook op => Proc.onSnd op.perform
  | .bindSingle kind flags => Messenger.bindSingle receiver kind flags
  | .bindMulti kind flags => Messenger.bindMulti receiver kind flags
  | .listen kind flags callback => Messenger.listen receiver kind flags callback

end FactoryOp

/-- Code of a factory. -/
abbrev Construction (κ ω α : Type) [Payload κ] : Type :=
  Routine (FactoryOp κ ω) FactoryOp.Reply α

namespace Construction

variable {κ ω α : Type} [Payload κ]

/-- Write a log record. -/
def log (level : Level) (text : String) : Construction κ ω Unit :=
  .ask (.hook (.log level text)) .done

/-- Change the world; the value is the world before. -/
def update (f : ω → ω) : Construction κ ω ω :=
  .ask (.hook (.update f)) .done

/-- Bind a slot for one message. -/
def bindSingle (kind : κ) (flags : MessageFlags) : Construction κ ω (SingleSlot κ kind) :=
  .ask (.bindSingle kind flags) .done

/-- Bind a slot for all messages. -/
def bindMulti (kind : κ) (flags : MessageFlags) : Construction κ ω (MultiSlot κ kind) :=
  .ask (.bindMulti kind flags) .done

/-- Bind a listener. -/
def listen (kind : κ) (flags : MessageFlags) (callback : Message κ kind → Hook ω Unit) :
    Construction κ ω (DelegateHandle κ) :=
  .ask (.listen kind flags callback) .done

/-- Run code that hooks may run as well. -/
def ofHook : Hook ω α → Construction κ ω α
  | .done value => .done value
  | .fail err => .fail err
  | .panic text => .panic text
  | .ask op next => .ask (.hook op) fun reply => ofHook (next reply)

variable [DecidableEq κ]

/-- Run the factory of an instance. -/
def exec (receiver : Receiver) (code : Construction κ ω α) :
    Proc (Messenger κ ω × Env ω) α :=
  Routine.run (FactoryOp.perform receiver) code

end Construction

/-- The instance that a factory is to construct. -/
structure Site where
  identifier : Identifier
  receiver : Receiver

/-- How the instances of a module type are constructed. -/
inductive Factory (κ ω : Type) [Payload κ] where
  /-- There is one instance, which gets to know the whole setup. -/
  | unique (construct : Section → Site → Geometry → Construction κ ω (Module κ ω))
  /-- There is one instance per detector. -/
  | perDetector (construct : Section → Site → Detector → Construction κ ω (Module κ ω))

/-- Whether a module type is there once or once per detector. -/
inductive Scope where
  | unique
  | perDetector
  deriving DecidableEq, Repr, Inhabited

namespace Scope

/-- The name of a scope. -/
def label : Scope → String
  | .unique => "Unique"
  | .perDetector => "PerDetector"

end Scope

/-- A module type: its name and its factory. -/
structure Descriptor (κ ω : Type) [Payload κ] where
  name : String
  factory : Factory κ ω

namespace Descriptor

variable {κ ω : Type} [Payload κ]

/-- The scope of a module type. -/
def scope (descriptor : Descriptor κ ω) : Scope :=
  match descriptor.factory with
  | .unique _ => .unique
  | .perDetector _ => .perDetector

/-- A module type as developers read it. -/
def describe (descriptor : Descriptor κ ω) : String :=
  s!"ModuleDescriptor \x7b name: {Text.literal descriptor.name}, "
    ++ s!"scope: {descriptor.scope.label} \x7d"

end Descriptor

/-- A named group of module types that are enabled together. -/
structure Collection (κ ω : Type) [Payload κ] where
  name : String
  descriptors : List (Descriptor κ ω)

end DetectorSim
