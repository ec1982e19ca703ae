import DetectorSim.Builtin.Sampling
import DetectorSim.Module.Basic

/-!
# Deposition of charges

The generator deposits point charges at random places in every detector for
which somebody takes them.
-/

set_option autoImplicit false

namespace DetectorSim.Builtin

open Config

/-- What a section sets for the generator. -/
structure DepositionSettings where
  /-- The number of charges in a detector and an event. -/
  deposits : Poisson
  /-- The size of a charge. -/
  charge : Normal
  /-- The extent of the sensor. -/
  sensorSize : Vector3
  deriving Inhabited

namespace DepositionSettings

/-- Read the extent of the sensor. -/
def readSensorSize (s : Section) : Except Error Vector3 :=
  if s.has "sensor_size" then
    match s.getArray "sensor_size" .float with
    | .error err => .error err
    | .ok [x, y, z] =>
        if 0.0 < x && 0.0 < y && 0.0 < z then .ok ⟨x, y, z⟩
        else .error (s.invalidValue "sensor_size" "expected three positive values")
    | .ok _ => .error (s.invalidValue "sensor_size" "expected three positive values")
  else .ok ⟨14.08, 14.08, 0.3⟩

/-- Read the settings of the generator. -/
def ofSection (s : Section) : Except Error DepositionSettings := do
  let meanDeposits ← s.getOr "mean_deposits" .float 10.0
  let chargeMean ← s.getOr "charge_mean" .float 2000.0
  let chargeSigma ← s.getOr "charge_sigma" .float 400.0
  let sensorSize ← readSensorSize s
  let deposits ← s.accept "mean_deposits" (Poisson.make meanDeposits)
  let charge ← s.accept "charge_sigma" (Normal.make chargeMean chargeSigma)
  return ⟨deposits, charge, sensorSize⟩

end DepositionSettings

namespace Deposition

variable {ω : Type} (samplers : Samplers)

/-- The bytes that one deposit takes in memory. -/
def depositSize : Nat := 32

/-- A deposit at a random place. -/
def sampleDeposit (settings : DepositionSettings) :
    EventCode PayloadKind ω DepositedCharge := do
  let x ← sampleBelow samplers settings.sensorSize.x
  let y ← sampleBelow samplers settings.sensorSize.y
  let z ← sampleBelow samplers settings.sensorSize.z
  let charge ← (samplers.normal settings.charge).draw
  return ⟨⟨x, y, z⟩, if 0.0 < charge then charge else 0.0⟩

/-- The deposits in a detector; numbers that do not fit into 64 bits are cut off.  There
is no memory for more than can be addressed. -/
def sampleDeposits (settings : DepositionSettings) :
    EventCode PayloadKind ω (List DepositedCharge) := do
  let value ← (samplers.poisson settings.deposits).draw
  let count := value.toUInt64.toNat
  if count * depositSize < 0x8000000000000000 then
    Routine.times (sampleDeposit samplers settings) count
  else .panic "capacity overflow"

/-- Deposit charges in a detector, if anybody takes them. -/
def depositIn (settings : DepositionSettings) (detector : Detector) :
    EventCode PayloadKind ω Unit := do
  if ← EventCode.hasReceiver PayloadKind.deposited [] (some detector) then
    let charges ← sampleDeposits samplers settings
    EventCode.log .debug s!"Deposited {charges.length} charges in {detector.name}"
    EventCode.dispatch PayloadKind.deposited charges (some detector)

/-- The generator for a setup. -/
def module (settings : DepositionSettings) (geometry : Geometry) : Module PayloadKind ω :=
  { (Module.idle : Module PayloadKind ω) with
    safety := .threadSafe
    init := Hook.log .info
      s!"Depositing charges in {geometry.detectors.length} detectors"
    run := Routine.each (depositIn samplers settings) geometry.detectors }

/-- The module type of the generator. -/
def descriptor : Descriptor PayloadKind ω :=
  ⟨"DepositionGenerator", .unique fun s _ geometry => do
    let settings ← Routine.ofExcept (DepositionSettings.ofSection s)
    return module samplers settings geometry⟩

end Deposition

end DetectorSim.Builtin
