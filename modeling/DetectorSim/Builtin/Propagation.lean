import DetectorSim.Builtin.Sampling
import DetectorSim.Module.Basic

/-!
# Propagation of charges

Deposited charges drift straight to the surface of the sensor.  On the way they
spread by diffusion, with the square root of the distance.
-/

set_option autoImplicit false

namespace DetectorSim.Builtin.Propagation

open Config

variable {ω : Type} (samplers : Samplers)

/-- Read the spread for a drift of one millimetre. -/
def readDiffusion (s : Section) : Except Error Float := do
  let diffusion ← s.getOr "diffusion_sigma" .float 0.01
  if diffusion < 0.0 then
    .error (s.invalidValue "diffusion_sigma" "diffusion should not be negative")
  else return diffusion

/-- The spread of a charge that drifts over a distance; there is none for a
distance that is not positive. -/
def spreadOf (diffusion distance : Float) : Float :=
  diffusion * Float.sqrt (if 0.0 < distance then distance else 0.0)

/-- The shift of a charge by diffusion. -/
def sampleShift (spread : Float) : EventCode PayloadKind ω (Float × Float) :=
  if 0.0 < spread then
    match Normal.make 0.0 spread with
    | .error reason => .fail (.runtime reason)
    | .ok normal => do
        let x ← (samplers.normal normal).draw
        let y ← (samplers.normal normal).draw
        return (x, y)
  else return (0.0, 0.0)

/-- Where a deposited charge arrives. -/
def propagate (diffusion : Float) (deposit : DepositedCharge) :
    EventCode PayloadKind ω PropagatedCharge := do
  let (x, y) ← sampleShift samplers (spreadOf diffusion deposit.position.z)
  return ⟨deposit.position.x + x, deposit.position.y + y, deposit.charge⟩

/-- The propagation for a detector. -/
def module (diffusion : Float) (detector : Detector)
    (deposits : SingleSlot PayloadKind .deposited) : Module PayloadKind ω :=
  { (Module.idle : Module PayloadKind ω) with
    safety := .threadSafe
    run := do
      match ← EventCode.single deposits with
      | none => return ()
      | some message =>
          let arrivals ← Routine.collect (propagate samplers diffusion) message.data
          EventCode.log .trace s!"Propagated {arrivals.length} charges in {detector.name}"
          EventCode.dispatch PayloadKind.propagated arrivals (some detector) }

/-- The module type of the propagation. -/
def descriptor : Descriptor PayloadKind ω :=
  ⟨"SimplePropagation", .perDetector fun s _ detector => do
    let diffusion ← Routine.ofExcept (readDiffusion s)
    let deposits ← Construction.bindSingle PayloadKind.deposited .requiredInput
    return module samplers diffusion detector deposits⟩

end DetectorSim.Builtin.Propagation
