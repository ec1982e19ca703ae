import DetectorSim.Json
import DetectorSim.Module.Instance

/-!
# Reports

After a run has succeeded, its report says how many events there were, how many
workers processed them, and how often each instance ran and was skipped.
-/

set_option autoImplicit false

namespace DetectorSim

/-- What an instance did in a run. -/
structure InstanceReport where
  /-- The name of the instance. -/
  module : String
  tally : Tally
  deriving DecidableEq, Repr, Inhabited

namespace InstanceReport

/-- The report of an instance as JSON. -/
def toJson (report : InstanceReport) : Json :=
  .object [
    ("module", .string report.module),
    ("runs", .integer report.tally.runs),
    ("skipped", .integer report.tally.skipped)]

end InstanceReport

/-- The summary of a run. -/
structure RunReport where
  events : Nat
  /-- The number of workers that were used. -/
  workers : Nat
  /-- The instances in the order in which they ran. -/
  modules : List InstanceReport
  deriving DecidableEq, Repr, Inhabited

namespace RunReport

/-- The summary of a run of some instances. -/
def ofTallies {κ ω : Type} [Payload κ] (events workers : Nat)
    (instances : List (Instance κ ω)) (tallies : List Tally) : RunReport :=
  ⟨events, workers, instances.zipWith (fun inst tally => ⟨inst.name, tally⟩) tallies⟩

/-- What the instance with a given name did. -/
def module? (report : RunReport) (name : String) : Option InstanceReport :=
  report.modules.find? fun inst => inst.module = name

/-- The summary as JSON. -/
def toJson (report : RunReport) : Json :=
  .object [
    ("events", .integer report.events),
    ("workers", .integer report.workers),
    ("modules", .array (report.modules.map InstanceReport.toJson))]

end RunReport

end DetectorSim
