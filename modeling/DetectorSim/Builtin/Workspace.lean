import DetectorSim.FileStore
import DetectorSim.Identity
import DetectorSim.Log

/-!
# The workspace of the built-in modules

What the built-in modules keep between their calls: the files that they write,
and what they have counted.

The counters have 64 bits, and none of them runs over.  A manager runs once, and a
writer counts each event of that run at most once; the numbers of the events have 64 bits
as well.  That no run comes to 2 ^ 64 hits, of which each takes time and memory to make,
is taken for granted.
-/

set_option autoImplicit false

namespace DetectorSim.Builtin

/-- What a writer keeps. -/
structure WriterState where
  /-- The open file. -/
  output : Option FileKey
  /-- The number of events that were written, at most that of the events. -/
  events : Nat
  /-- The number of hits that were written. -/
  hits : Nat
  deriving Inhabited

namespace WriterState

/-- A writer that has not opened its file. -/
def closed : WriterState :=
  ⟨none, 0, 0⟩

end WriterState

/-- What the built-in modules keep. -/
structure Workspace where
  files : FileStore
  /-- The hits that a digitizer counted on a thread and has not merged yet. -/
  pending : Table (ThreadId × InstanceId) Nat
  /-- The hits that each digitizer has merged. -/
  totals : Table InstanceId Nat
  writers : Table InstanceId WriterState
  deriving Inhabited

namespace Workspace

/-- A workspace with some files, before any module uses it. -/
def ofFiles (files : FileStore) : Workspace :=
  ⟨files, .empty, .empty, .empty⟩

/-- What a writer keeps. -/
def writer (workspace : Workspace) (id : InstanceId) : WriterState :=
  (workspace.writers.find? id).getD .closed

/-- Change what a writer keeps. -/
def changeWriter (workspace : Workspace) (id : InstanceId) (f : WriterState → WriterState) :
    Workspace :=
  { workspace with writers := workspace.writers.alter id .closed f }

theorem writer_changeWriter (workspace : Workspace) (id other : InstanceId)
    (f : WriterState → WriterState) :
    (workspace.changeWriter id f).writer other
      = if id = other then f (workspace.writer other) else workspace.writer other := by
  unfold changeWriter writer
  rw [Table.find?_alter]
  split <;> rfl

/-- Count hits of a digitizer on a thread. -/
def countHits (workspace : Workspace) (thread : ThreadId) (id : InstanceId) (hits : Nat) :
    Workspace :=
  { workspace with pending := workspace.pending.alter (thread, id) 0 (· + hits) }

/-- The hits that a digitizer counted on a thread, if it counted there. -/
def pending? (workspace : Workspace) (thread : ThreadId) (id : InstanceId) : Option Nat :=
  workspace.pending.find? (thread, id)

/-- The hits that a digitizer has merged. -/
def total (workspace : Workspace) (id : InstanceId) : Nat :=
  (workspace.totals.find? id).getD 0

/-- Merge the hits that a digitizer counted on a thread into its total. -/
def merge (workspace : Workspace) (thread : ThreadId) (id : InstanceId) : Workspace :=
  match workspace.pending? thread id with
  | none => workspace
  | some hits =>
      { workspace with
        pending := workspace.pending.erase (thread, id)
        totals := workspace.totals.alter id 0 (· + hits) }

end Workspace

/-- Worlds in which the built-in modules have a place. -/
class HasWorkspace (ω : Type) where
  workspace : ω → Workspace
  withWorkspace : Workspace → ω → ω

instance : HasWorkspace Workspace where
  workspace := id
  withWorkspace workspace _ := workspace

/-- Change the workspace in a world. -/
def onWorkspace {ω : Type} [HasWorkspace ω] (f : Workspace → Workspace) (world : ω) : ω :=
  HasWorkspace.withWorkspace (f (HasWorkspace.workspace world)) world

end DetectorSim.Builtin
