import DetectorSim.Config.Value
import DetectorSim.Config.Reader

/-!
# Detectors and geometry

A geometry is the list of the detectors of a setup, in the order in which they
were added.  Detector names are unique; that is checked when one is added.
-/

set_option autoImplicit false

namespace DetectorSim

open Config

/-- A vector in space. -/
structure Vector3 where
  x : Float
  y : Float
  z : Float
  deriving Inhabited

namespace Vector3

/-- The origin. -/
def zero : Vector3 :=
  ⟨0.0, 0.0, 0.0⟩

end Vector3

/-- One detector of a setup. -/
structure Detector where
  name : String
  /-- The model of the detector. -/
  type : String
  position : Vector3
  /-- The angles of rotation around the axes. -/
  orientation : Vector3
  deriving Inhabited

namespace Detector

/-- A detector at the origin that is not rotated. -/
def atOrigin (name type : String) : Detector :=
  ⟨name, type, .zero, .zero⟩

/-- The detector as the user reads it. -/
def display (detector : Detector) : String :=
  s!"{detector.name} ({detector.type})"

end Detector

/-- The detectors of a setup, in the order in which they were added. -/
structure Geometry where
  detectors : List Detector
  deriving Inhabited

namespace Geometry

/-- A setup without detectors. -/
def empty : Geometry :=
  ⟨[]⟩

/-- The detector with a given name. -/
def find? (geometry : Geometry) (name : String) : Option Detector :=
  geometry.detectors.find? fun detector => detector.name = name

/-- Whether there is a detector with a given name. -/
def has (geometry : Geometry) (name : String) : Bool :=
  geometry.detectors.any fun detector => detector.name = name

/-- The detector with a given name, or the error that there is none. -/
def detector (geometry : Geometry) (name : String) : Except Error Detector :=
  match geometry.find? name with
  | some detector => .ok detector
  | none => .error (.detectorNotFound name)

/-- The detectors of a given type. -/
def ofType (geometry : Geometry) (type : String) : List Detector :=
  geometry.detectors.filter fun detector => detector.type = type

/-- The detectors of a given type, or the error that there are none. -/
def detectorsByType (geometry : Geometry) (type : String) : Except Error (List Detector) :=
  match geometry.ofType type with
  | [] => .error (.detectorTypeNotFound type)
  | detectors => .ok detectors

/-- Add a detector, unless its name is taken. -/
def add? (geometry : Geometry) (detector : Detector) : Except Error Geometry :=
  if geometry.has detector.name then .error (.duplicateDetector detector.name)
  else .ok ⟨geometry.detectors ++ [detector]⟩

/-- Add a detector, with a note in the log. -/
def add (detector : Detector) : Proc (Geometry × Journal) Unit := fun (geometry, journal) =>
  match geometry.add? detector with
  | .error err => (.error err, (geometry, journal))
  | .ok larger =>
      (.ok (), (larger, journal.write .debug ("Adding detector " ++ detector.display)))

/-- A setup of some detectors, with notes in the log. -/
def ofDetectors (detectors : List Detector) : Proc Journal Geometry := fun journal =>
  match Proc.each add detectors (empty, journal) with
  | (outcome, (geometry, journal)) => (outcome.map fun _ => geometry, journal)

/-! ## Setups from a configuration -/

/-- Read a key as a vector of three components. -/
def readVector (s : Section) (key : String) : Except Error Vector3 :=
  match s.getArray key .float with
  | .error err => .error err
  | .ok [x, y, z] => .ok ⟨x, y, z⟩
  | .ok _ => .error (s.invalidValue key "expected three components")

/-- Read a key as a vector; the origin if the key is not set. -/
def readVectorOr (s : Section) (key : String) : Except Error Vector3 :=
  if s.has key then readVector s key else .ok .zero

/-- The detector that a section describes. -/
def readDetector (s : Section) : Except Error Detector := do
  let type ← s.get "type" .string
  let position ← readVectorOr s "position"
  let orientation ← readVectorOr s "orientation"
  return ⟨s.name, type, position, orientation⟩

/-- Add the detector that a section describes. -/
def addSection (s : Section) : Proc (Geometry × Journal) Unit := do
  let detector ← Proc.ofExcept (readDetector s)
  add detector

/-- The setup that a configuration describes: every named section is a
detector. -/
def ofReader (reader : Reader) : Proc Journal Geometry := fun journal =>
  match Proc.each addSection reader.moduleSections (empty, journal) with
  | (outcome, (geometry, journal)) => (outcome.map fun _ => geometry, journal)

end Geometry

end DetectorSim
