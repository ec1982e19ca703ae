import DetectorSim.Outcome
import DetectorSim.Table

/-!
# The log

Log records carry the section that was current on the thread that wrote them.
While a module instance is inside one of its calls, its thread is in a section
named after the call and the instance.  Entering a section gives a guard that
remembers the section before; leaving restores it, so sections that are left
in the reverse order of their entering nest.
-/

set_option autoImplicit false

namespace DetectorSim

/-- How severe a log record is. -/
inductive Level where
  | error
  | warn
  | info
  | debug
  | trace
  deriving DecidableEq, Repr, Inhabited

namespace Level

/-- The rank of a level; the most severe one has rank one. -/
def rank : Level → Nat
  | .error => 1
  | .warn => 2
  | .info => 3
  | .debug => 4
  | .trace => 5

/-- The name of a level in a log line. -/
def label : Level → String
  | .error => "ERROR"
  | .warn => "WARN"
  | .info => "INFO"
  | .debug => "DEBUG"
  | .trace => "TRACE"

/-- The level with a given name, in any case. -/
def ofName? (name : String) : Option Level :=
  [Level.error, .warn, .info, .debug, .trace].find? fun level =>
    level.label == String.ofList (name.toList.map Char.toUpper)

end Level

/-- A thread of execution.  Thread zero is the one that drives the program. -/
abbrev ThreadId := Nat

/-- One line of the log. -/
structure Record where
  level : Level
  sectionName : String
  text : String
  deriving DecidableEq, Repr, Inhabited

/-- The current section of every thread. -/
structure Sections where
  current : Table ThreadId String
  deriving Inhabited

/-- What is needed to leave a section again. -/
structure SectionGuard where
  previous : String
  deriving DecidableEq, Repr, Inhabited

namespace Sections

/-- Every thread outside of any section. -/
def none : Sections :=
  ⟨.empty⟩

/-- The current section of a thread; a new thread is in none. -/
def currentOf (sections : Sections) (thread : ThreadId) : String :=
  (sections.current.find? thread).getD ""

/-- Enter a section. -/
def enter (sections : Sections) (thread : ThreadId) (name : String) :
    SectionGuard × Sections :=
  (⟨sections.currentOf thread⟩, ⟨sections.current.insert thread name⟩)

/-- Leave the section that a guard was given for. -/
def leave (sections : Sections) (thread : ThreadId) (guard : SectionGuard) : Sections :=
  ⟨sections.current.insert thread guard.previous⟩

end Sections

/-- The log so far, seen from a thread that may write to it. -/
structure Journal where
  thread : ThreadId
  sections : Sections
  /-- What was written, the newest record first. -/
  records : List Record
  deriving Inhabited

namespace Journal

/-- An empty log, seen from the driving thread. -/
def empty : Journal :=
  ⟨0, .none, []⟩

/-- Write a record in the current section of the thread. -/
def write (journal : Journal) (level : Level) (text : String) : Journal :=
  { journal with
    records := ⟨level, journal.sections.currentOf journal.thread, text⟩ :: journal.records }

/-- What was written, in order. -/
def lines (journal : Journal) : List Record :=
  journal.records.reverse

/-- What was written with a given level or a more severe one, in order. -/
def linesUpTo (journal : Journal) (level : Level) : List Record :=
  journal.lines.filter fun record => record.level.rank ≤ level.rank

/-- Enter a section on the thread. -/
def enter (journal : Journal) (name : String) : SectionGuard × Journal :=
  let (guard, sections) := journal.sections.enter journal.thread name
  (guard, { journal with sections })

/-- Leave a section on the thread. -/
def leave (journal : Journal) (guard : SectionGuard) : Journal :=
  { journal with sections := journal.sections.leave journal.thread guard }

end Journal

/-- States that hold a log. -/
class HasJournal (σ : Type) where
  journal : σ → Journal
  withJournal : Journal → σ → σ

instance : HasJournal Journal where
  journal := id
  withJournal journal _ := journal

instance {σ τ : Type} [HasJournal τ] : HasJournal (σ × τ) where
  journal state := HasJournal.journal state.2
  withJournal journal state := (state.1, HasJournal.withJournal journal state.2)

namespace Proc

variable {σ α : Type} [HasJournal σ]

/-- Change the log. -/
def onJournal (f : Journal → Journal) : Proc σ Unit :=
  modify fun state => HasJournal.withJournal (f (HasJournal.journal state)) state

/-- Write a log record. -/
def log (level : Level) (text : String) : Proc σ Unit :=
  onJournal fun journal => journal.write level text

/-- Run a procedure on a given thread. -/
def onThread (thread : ThreadId) (proc : Proc σ α) : Proc σ α := fun state =>
  let before := (HasJournal.journal state).thread
  match proc (HasJournal.withJournal { HasJournal.journal state with thread } state) with
  | (outcome, state) =>
      (outcome,
        HasJournal.withJournal { HasJournal.journal state with thread := before } state)

/-- Run a procedure inside a log section, which is left again however the
procedure ends. -/
def within (name : String) (proc : Proc σ α) : Proc σ α := fun state =>
  let (guard, journal) := (HasJournal.journal state).enter name
  match proc (HasJournal.withJournal journal state) with
  | (outcome, state) =>
      (outcome, HasJournal.withJournal ((HasJournal.journal state).leave guard) state)

end Proc

end DetectorSim
