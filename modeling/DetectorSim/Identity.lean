/-!
# Identities of module instances

An instance is identified by its module type, by the detector it works for and
by how specific the configuration section was that asked for it.  Two
identifiers with the same module type and detector compete for one place in
the list of instances; the more specific one gets it.
-/

set_option autoImplicit false

namespace DetectorSim

/-- The handle of a constructed module instance. -/
structure InstanceId where
  index : Nat
  deriving DecidableEq, Repr, Inhabited

namespace InstanceId

/-- The handle as it appears in the log. -/
def display (id : InstanceId) : String :=
  s!"#{id.index}"

/-- Handles in the order in which they were given out. -/
def sort (ids : List InstanceId) : List InstanceId :=
  ids.mergeSort fun a b => a.index ≤ b.index

end InstanceId

/-- How a configuration section selected the detector of an instance. -/
inductive Priority where
  /-- The section applies to all detectors, or the module is a unique one. -/
  | wildcard
  /-- The section names the detector. -/
  | name
  /-- The section names the type of the detector. -/
  | type
  deriving DecidableEq, Repr, Inhabited

namespace Priority

/-- The number of a priority in the log. -/
def classNumber : Priority → Nat
  | .wildcard => 0
  | .name => 1
  | .type => 2

/-- How specific a priority is. -/
def precedence : Priority → Nat
  | .name => 2
  | .type => 1
  | .wildcard => 0

/-- Whether an instance of one priority replaces one of another. -/
def overrides (a b : Priority) : Bool :=
  b.precedence < a.precedence

/-- The name of a priority. -/
def label : Priority → String
  | .wildcard => "Wildcard"
  | .name => "Name"
  | .type => "Type"

/-- Different priorities differ in how specific they are. -/
theorem precedence_injective {a b : Priority} (h : a.precedence = b.precedence) : a = b := by
  cases a <;> cases b <;> first | rfl | cases h

end Priority

/-- The identity of a module instance. -/
structure Identifier where
  /-- The module type. -/
  module : String
  /-- The name of the detector; empty for a module that is unique. -/
  detector : String
  priority : Priority
  deriving DecidableEq, Repr, Inhabited

namespace Identifier

/-- The identity of a module that is there once. -/
def unique (module : String) : Identifier :=
  ⟨module, "", .wildcard⟩

/-- What two identifiers share when they compete for one place. -/
def key (id : Identifier) : String × String :=
  (id.module, id.detector)

/-- The name of an instance as the user reads it. -/
def display (id : Identifier) : String :=
  if id.detector.isEmpty then id.module else id.module ++ ":" ++ id.detector

end Identifier

end DetectorSim
