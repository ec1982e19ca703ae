import DetectorSim.Routine
import DetectorSim.Log

/-!
# Hooks

Modules keep their state in a world that all of them share.  A hook is a
routine that can read and change the world, write to the log and ask on which
thread it runs; it has no access to the log sections or to the records of
others.
-/

set_option autoImplicit false

namespace DetectorSim

/-- The world of the modules and the log, seen from a thread. -/
structure Env (ω : Type) where
  world : ω
  journal : Journal

instance {ω : Type} : HasJournal (Env ω) where
  journal env := env.journal
  withJournal journal env := { env with journal }

namespace Env

variable {ω α : Type}

/-- Run a procedure on the log alone. -/
def onJournal (proc : Proc Journal α) : Proc (Env ω) α :=
  Proc.zoom Env.journal (fun journal env => { env with journal }) proc

end Env

/-- What the code of a module may ask for at any time. -/
inductive HookOp (ω : Type) where
  /-- Write a log record. -/
  | log (level : Level) (text : String)
  /-- Change the world; the reply is the world before. -/
  | update (f : ω → ω)
  /-- The thread that the code runs on. -/
  | thread

namespace HookOp

variable {ω : Type}

/-- The reply to an operation. -/
def Reply : HookOp ω → Type
  | .log .. => Unit
  | .update _ => ω
  | .thread => ThreadId

/-- What an operation does. -/
def perform : (op : HookOp ω) → Proc (Env ω) op.Reply
  | .log level text => Proc.log level text
  | .update f => fun env => (.ok env.world, { env with world := f env.world })
  | .thread => fun env => (.ok env.journal.thread, env)

end HookOp

/-- Code that a module runs outside of events. -/
abbrev Hook (ω : Type) (α : Type) : Type :=
  Routine (HookOp ω) HookOp.Reply α

namespace Hook

variable {ω α : Type}

/-- Write a log record. -/
def log (level : Level) (text : String) : Hook ω Unit :=
  .ask (.log level text) .done

/-- The world. -/
def world : Hook ω ω :=
  .ask (.update id) .done

/-- Change the world. -/
def update (f : ω → ω) : Hook ω Unit :=
  .ask (.update f) fun _ => .done ()

/-- The thread that the hook runs on. -/
def thread : Hook ω ThreadId :=
  .ask .thread .done

/-- Run a hook, and another one if it fails; the failure stays. -/
def orElse : Hook ω α → Hook ω Unit → Hook ω α
  | .done value, _ => .done value
  | .fail err, other => Routine.andThen other fun _ => .fail err
  | .panic text, _ => .panic text
  | .ask op next, other => .ask op fun reply => orElse (next reply) other

/-- Run a hook. -/
def exec (hook : Hook ω α) : Proc (Env ω) α :=
  Routine.run HookOp.perform hook

end Hook

end DetectorSim
