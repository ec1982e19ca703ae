import DetectorSim.Builtin.Payload
import DetectorSim.Builtin.Workspace
import DetectorSim.Module.Basic

/-!
# Writing hits

The writer puts the hits of each event on one line of its output file, sorted by
the names of the detectors.  It sees the events in order, so the lines are in
order as well.
-/

set_option autoImplicit false

namespace DetectorSim.Builtin.Writer

open Config

variable {ω : Type}

/-- The path of the output file. -/
def readPath (s : Section) : Except Error String :=
  if s.has "file_name" then s.getPath "file_name" else .ok "output.jsonl"

/-- The hits of some messages by the names of their detectors, sorted; of two
messages for one detector the later one counts. -/
def byDetector (messages : List (Message PayloadKind .hits)) :
    Table String (List PixelHit) :=
  messages.foldl
    (fun table message =>
      let name := match message.detector with
        | some detector => detector.name
        | none => ""
      table.insertSorted textBefore name message.data)
    .empty

/-- The line for an event. -/
def lineOf (event : Nat) (messages : List (Message PayloadKind .hits)) : String :=
  let hits := (byDetector messages).entries.map fun (name, hits) =>
    (name, Json.array (hits.map PixelHit.toJson))
  (Json.object [("event", .integer event), ("hits", .object hits)]).render ++ "\n"

/-- The number of hits in some messages. -/
def countHits (messages : List (Message PayloadKind .hits)) : Nat :=
  messages.foldl (fun count message => count + List.length (α := PixelHit) message.data) 0

/-- Add a line to the output of a writer, if it is open. -/
def addLine (id : InstanceId) (line : String) (hits : Nat) (workspace : Workspace) :
    Workspace :=
  match (workspace.writer id).output with
  | none => workspace
  | some key =>
      { workspace with files := workspace.files.append key line }.changeWriter id
        fun state => { state with events := state.events + 1, hits := state.hits + hits }

/-- Open the output of a writer, if that is possible. -/
def openOutput (id : InstanceId) (path : String) (workspace : Workspace) : Workspace :=
  match workspace.files.create path with
  | .error _ => workspace
  | .ok (key, files) =>
      { workspace with files }.changeWriter id fun state => { state with output := some key }

/-- Close the output of a writer. -/
def closeOutput (id : InstanceId) (workspace : Workspace) : Workspace :=
  workspace.changeWriter id fun state => { state with output := none }

variable [HasWorkspace ω]

/-- Create the output file. -/
def init (id : InstanceId) (path : String) : Hook ω Unit := do
  let world ← Hook.world
  match (HasWorkspace.workspace world).files.create path with
  | .error err => .fail (.fileError err)
  | .ok _ =>
      Hook.update (onWorkspace (openOutput id path))
      Hook.log .info s!"Writing pixel hits to {path}"

/-- Write the hits of an event. -/
def run (id : InstanceId) (hits : MultiSlot PayloadKind .hits) :
    EventCode PayloadKind ω Unit := do
  let messages ← EventCode.multi hits
  let event ← EventCode.number
  let count := countHits messages
  let before ← EventCode.update (onWorkspace (addLine id (lineOf event messages) count))
  match ((HasWorkspace.workspace before).writer id).output with
  | none => .fail (.logic "output file is not open")
  | some _ => EventCode.log .debug s!"Wrote {count} hits of event {event}"

/-- Close the output file and tell what was written. -/
def finalize (id : InstanceId) (path : String) : Hook ω Unit := do
  Hook.update (onWorkspace (closeOutput id))
  let world ← Hook.world
  let state := (HasWorkspace.workspace world).writer id
  Hook.log .info
    s!"Wrote {state.events} events with {state.hits} pixel hits to {path}"

/-- A writer. -/
def module (id : InstanceId) (path : String) (hits : MultiSlot PayloadKind .hits) :
    Module PayloadKind ω :=
  { (Module.idle : Module PayloadKind ω) with
    safety := .sequential
    init := init id path
    run := run id hits
    finalize := finalize id path }

/-- The module type of the writer. -/
def descriptor : Descriptor PayloadKind ω :=
  ⟨"JsonWriter", .unique fun s site _ => do
    let path ← Routine.ofExcept (readPath s)
    let hits ← Construction.bindMulti PayloadKind.hits .none
    return module site.receiver.id path hits⟩

end DetectorSim.Builtin.Writer
