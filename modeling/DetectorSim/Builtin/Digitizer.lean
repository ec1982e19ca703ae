import DetectorSim.Builtin.Sampling
import DetectorSim.Builtin.Workspace
import DetectorSim.Module.Basic

/-!
# Digitization

The digitizer adds up the charges that arrive in each pixel of a detector, adds
noise, and keeps the pixels whose signal reaches a threshold.  The pixels are
visited by column and row, so each one always gets the same noise.

Hits are counted for each thread on its own.  The counts are merged into the
total of the digitizer when a worker ends and when the digitizer is finalized.
-/

set_option autoImplicit false

namespace DetectorSim.Builtin

open Config

/-- The column and the row of a pixel. -/
abbrev Pixel : Type :=
  Int × Int

namespace Pixel

/-- The order of pixels: by column, then by row. -/
def before (a b : Pixel) : Bool :=
  a.1 < b.1 || (a.1 == b.1 && a.2 < b.2)

/-- The number of the cell that holds a coordinate; numbers that do not fit
into 64 bits are cut off, and what is not a number is in the first cell. -/
def cell (coordinate pitch : Float) : Int :=
  (coordinate / pitch).floor.toInt64.toInt

end Pixel

/-- What a section sets for the digitizer. -/
structure DigitizerSettings where
  /-- The width of a column. -/
  columnPitch : Float
  /-- The height of a row. -/
  rowPitch : Float
  threshold : Float
  noise : Normal
  deriving Inhabited

namespace DigitizerSettings

/-- Read the size of a pixel. -/
def readPitch (s : Section) : Except Error (Float × Float) :=
  if s.has "pixel_pitch" then
    match s.getArray "pixel_pitch" .float with
    | .error err => .error err
    | .ok [x, y] =>
        if 0.0 < x && 0.0 < y then .ok (x, y)
        else .error (s.invalidValue "pixel_pitch" "expected two positive values")
    | .ok _ => .error (s.invalidValue "pixel_pitch" "expected two positive values")
  else .ok (0.055, 0.055)

/-- Read the settings of the digitizer. -/
def ofSection (s : Section) : Except Error DigitizerSettings := do
  let (columnPitch, rowPitch) ← readPitch s
  let threshold ← s.getOr "threshold" .float 600.0
  let sigma ← s.getOr "electronics_noise" .float 110.0
  let noise ← s.accept "electronics_noise" (Normal.make 0.0 sigma)
  return ⟨columnPitch, rowPitch, threshold, noise⟩

/-- The pixel at which a charge arrives. -/
def pixelOf (settings : DigitizerSettings) (arrival : PropagatedCharge) : Pixel :=
  (Pixel.cell arrival.x settings.columnPitch, Pixel.cell arrival.y settings.rowPitch)

end DigitizerSettings

namespace Digitizer

variable {ω : Type}

/-- The charge in each pixel that saw any, sorted by column and row. -/
def collectCharges (pixelOf : PropagatedCharge → Pixel) (arrivals : List PropagatedCharge) :
    Table Pixel Float :=
  arrivals.foldl
    (fun pixels arrival =>
      pixels.alterSorted Pixel.before (pixelOf arrival) 0.0 (· + arrival.charge))
    .empty

/-- The hit that a pixel makes with its charge and some noise, if the signal
reaches the threshold. -/
def hit? (threshold : Float) (pixel : Pixel) (charge noise : Float) : Option PixelHit :=
  let signal := charge + noise
  if threshold <= signal then some ⟨pixel.1, pixel.2, signal⟩ else none

variable (samplers : Samplers)

/-- What a pixel makes of its charge. -/
def digitizePixel (settings : DigitizerSettings) (entry : Pixel × Float) :
    EventCode PayloadKind ω (Option PixelHit) := do
  let noise ← (samplers.normal settings.noise).draw
  return hit? settings.threshold entry.1 entry.2 noise

/-- The hits that some charges make. -/
def digitize (settings : DigitizerSettings) (arrivals : List PropagatedCharge) :
    EventCode PayloadKind ω (List PixelHit) := do
  let pixels := collectCharges settings.pixelOf arrivals
  let results ← Routine.collect (digitizePixel samplers settings) pixels.entries
  return results.filterMap id

variable [HasWorkspace ω]

/-- Digitize the charges of an event. -/
def digitizeEvent (settings : DigitizerSettings) (id : InstanceId) (detector : Detector)
    (arrivals : List PropagatedCharge) : EventCode PayloadKind ω Unit := do
  let hits ← digitize samplers settings arrivals
  let thread ← EventCode.thread
  let _ ← EventCode.update (onWorkspace fun workspace =>
    workspace.countHits thread id hits.length)
  EventCode.dispatch PayloadKind.hits hits (some detector)

/-- Merge the hits that were counted on this thread. -/
def mergePending (id : InstanceId) : Hook ω Unit := do
  let thread ← Hook.thread
  let world ← Hook.world
  match (HasWorkspace.workspace world).pending? thread id with
  | none => return ()
  | some hits =>
      Hook.log .debug s!"Merging {hits} hits counted on this thread"
      Hook.update (onWorkspace fun workspace => workspace.merge thread id)

/-- Merge what is left and tell the total. -/
def finalize (id : InstanceId) (detector : Detector) : Hook ω Unit := do
  mergePending id
  let world ← Hook.world
  Hook.log .info
    s!"Digitized {(HasWorkspace.workspace world).total id} pixel hits in {detector.name}"

/-- The digitizer of a detector. -/
def module (settings : DigitizerSettings) (id : InstanceId) (detector : Detector)
    (arrivals : SingleSlot PayloadKind .propagated) : Module PayloadKind ω :=
  { (Module.idle : Module PayloadKind ω) with
    safety := .threadSafe
    run := do
      match ← EventCode.single arrivals with
      | none => return ()
      | some message => digitizeEvent samplers settings id detector message.data
    threadFinalize := mergePending id
    finalize := finalize id detector }

/-- The module type of the digitizer. -/
def descriptor : Descriptor PayloadKind ω :=
  ⟨"DefaultDigitizer", .perDetector fun s site detector => do
    let settings ← Routine.ofExcept (DigitizerSettings.ofSection s)
    let arrivals ← Construction.bindSingle PayloadKind.propagated .requiredInput
    return module samplers settings site.receiver.id detector arrivals⟩

end Digitizer

end DetectorSim.Builtin
