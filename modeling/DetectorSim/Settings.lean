import DetectorSim.Config.Value
import DetectorSim.Log

/-!
# Settings of a run

The global settings of a simulation: how many events, on how many workers,
with which seed.  They come from the header of the main configuration and may
be changed afterwards.
-/

set_option autoImplicit false

namespace DetectorSim

open Config

/-- Whether events are processed one after the other or by a pool of
workers. -/
inductive Concurrency where
  | singleThreaded
  | pooled
  deriving DecidableEq, Repr, Inhabited

namespace Concurrency

/-- The name of a mode in reports. -/
def label : Concurrency → String
  | .singleThreaded => "SingleThreaded"
  | .pooled => "Rayon"

end Concurrency

/-- The global settings of a simulation. -/
structure Settings where
  events : Nat
  concurrency : Concurrency
  /-- The size of the worker pool; the number of processors if it is not set. -/
  poolSize : Option Nat
  /-- Fail when a module is not thread-safe, instead of running on one
  thread. -/
  strict : Bool
  /-- The seed of the random numbers; drawn anew for every run if it is not
  set. -/
  seed : Option Nat
  detectorsFile : Option String
  /-- The module collections to enable; all if there are none. -/
  collections : List String
  logLevel : Option String
  deriving DecidableEq, Repr, Inhabited

namespace Settings

/-- One event on one thread. -/
def standard : Settings :=
  ⟨1, .singleThreaded, none, false, none, none, [], none⟩

/-- The number of workers asked for, on a machine with `processors`. -/
def workers (settings : Settings) (processors : Nat) : Nat :=
  settings.poolSize.getD processors

/-- Set the size of the worker pool; a pool is never empty. -/
def withWorkers (settings : Settings) (workers : Nat) : Settings :=
  { settings with poolSize := some (max workers 1) }

/-- Note in the log that a pool without workers was asked for. -/
def warnNoWorkers {σ : Type} [HasJournal σ] (workers : Nat) : Proc σ Unit :=
  if workers = 0 then
    Proc.log .warn "Number of workers is zero, falling back to a single thread"
  else Proc.done ()

/-- Read the number of workers. -/
def readWorkers (header : Section) (settings : Settings) : Proc Journal Settings := do
  match ← Proc.ofExcept (header.get? "workers" .natural) with
  | none => return settings
  | some workers =>
      warnNoWorkers workers
      return settings.withWorkers workers

/-- Read a path that may be missing. -/
def readPath? (header : Section) (key : String) : Except Error (Option String) :=
  if header.has key then
    match header.getPath key with
    | .ok path => .ok (some path)
    | .error err => .error err
  else .ok none

/-- Read a list that may be missing. -/
def readList (header : Section) (key : String) : Except Error (List String) :=
  if header.has key then header.getArray key .string else .ok []

/-- Read the settings from the header of a configuration. -/
def ofHeader (header : Section) : Proc Journal Settings := do
  let events ← Proc.ofExcept (header.getOr "number_of_events" .natural 1)
  let pooled ← Proc.ofExcept (header.getOr "multithreading" .bool false)
  let concurrency := if pooled then Concurrency.pooled else .singleThreaded
  let settings ← readWorkers header { standard with events, concurrency }
  let strict ← Proc.ofExcept (header.getOr "fail_on_thread_unsafe" .bool false)
  let seed ← Proc.ofExcept (header.get? "random_seed" .natural)
  let detectorsFile ← Proc.ofExcept (readPath? header "detectors_file")
  let collections ← Proc.ofExcept (readList header "modules")
  let logLevel ← Proc.ofExcept (header.get? "log_level" .string)
  return { settings with strict, seed, detectorsFile, collections, logLevel }

/-- A natural number that may be missing. -/
def natJson (value : Option Nat) : Json :=
  Json.optional (fun n => .integer n) value

/-- The settings as JSON. -/
def toJson (settings : Settings) : Json :=
  .object [
    ("number_of_events", .integer settings.events),
    ("concurrency_mode", .string settings.concurrency.label),
    ("thread_pool_size", natJson settings.poolSize),
    ("fail_on_thread_unsafe", .bool settings.strict),
    ("random_seed", natJson settings.seed),
    ("detectors_file", Json.optional .string settings.detectorsFile),
    ("modules", .array (settings.collections.map .string)),
    ("log_level", Json.optional .string settings.logLevel)]

end Settings

end DetectorSim
