import DetectorSim.Module.Basic

/-!
# Targets of a configuration section

A section asks for instances of the module type that it is named after.  For a
type that is there once it asks for that one.  For a type that is there once per
detector it may select detectors by name and by type; a section that does
neither asks for all of them.  A detector that a section selects by name is not
selected by type again.
-/

set_option autoImplicit false

namespace DetectorSim

open Config

/-- An instance that a section asks for. -/
structure Target where
  identifier : Identifier
  detector : Option Detector
  deriving Inhabited

namespace Target

/-- The target for a module type that is there once. -/
def unique (module : String) : Target :=
  ⟨.unique module, none⟩

/-- The target for a detector. -/
def forDetector (module : String) (priority : Priority) (detector : Detector) : Target :=
  ⟨⟨module, detector.name, priority⟩, some detector⟩

/-- One target for each listed name. -/
def byName (module : String) (geometry : Geometry) :
    List String → Except Error (List Target)
  | [] => .ok []
  | name :: rest => do
      let detector ← geometry.detector name
      let targets ← byName module geometry rest
      return .forDetector module .name detector :: targets

/-- One target for each detector of each listed type, except for those that
are selected by name. -/
def byType (module : String) (geometry : Geometry) (named : List String) :
    List String → Except Error (List Target)
  | [] => .ok []
  | type :: rest => do
      let detectors ← geometry.detectorsByType type
      let others := detectors.filter fun detector => !named.contains detector.name
      let targets ← byType module geometry named rest
      return others.map (.forDetector module .type) ++ targets

/-- The elements of a list that may be missing. -/
def listed (s : Section) (key : String) : Except Error (List String) :=
  if s.has key then s.getArray key .string else .ok []

/-- The targets of a section for a module type that is there once per
detector: first those selected by name, then those selected by type. -/
def ofDetectors (module : String) (s : Section) (geometry : Geometry) :
    Except Error (List Target) := do
  let names ← listed s "name"
  let named ← byName module geometry names
  let types ← listed s "type"
  let typed ← byType module geometry names types
  let all :=
    if s.has "name" || s.has "type" then []
    else geometry.detectors.map (.forDetector module .wildcard)
  return named ++ typed ++ all

/-- The targets of a section. -/
def ofSection {κ ω : Type} [Payload κ] (descriptor : Descriptor κ ω) (s : Section)
    (geometry : Geometry) : Except Error (List Target) :=
  match descriptor.factory with
  | .unique _ => .ok [.unique descriptor.name]
  | .perDetector _ => ofDetectors descriptor.name s geometry

end Target

end DetectorSim
