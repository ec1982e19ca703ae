import DetectorSim.Json
import DetectorSim.Messaging.Message

/-!
# Payloads of the built-in modules

Charges are deposited inside the sensor of a detector, drift to its surface, and
make hits in its pixels.
-/

set_option autoImplicit false

namespace DetectorSim.Builtin

/-- A charge that was deposited in a sensor. -/
structure DepositedCharge where
  /-- The place, in millimetres, seen from a corner of the sensor. -/
  position : Vector3
  /-- The charge in electrons. -/
  charge : Float
  deriving Inhabited

/-- A charge that arrived at the surface of a sensor. -/
structure PropagatedCharge where
  x : Float
  y : Float
  charge : Float
  deriving Inhabited

/-- A pixel that saw a signal. -/
structure PixelHit where
  column : Int
  row : Int
  signal : Float
  deriving Inhabited

/-- The kinds of payload that the built-in modules exchange. -/
inductive PayloadKind where
  | deposited
  | propagated
  | hits
  deriving DecidableEq, Repr, Inhabited

namespace PayloadKind

/-- The data of a payload. -/
abbrev Data : PayloadKind → Type
  | .deposited => List DepositedCharge
  | .propagated => List PropagatedCharge
  | .hits => List PixelHit

/-- The name of a kind of payload. -/
def typeName : PayloadKind → String
  | .deposited => "pixsim::modules::objects::DepositedCharges"
  | .propagated => "pixsim::modules::objects::PropagatedCharges"
  | .hits => "pixsim::modules::objects::PixelHits"

end PayloadKind

instance : Payload PayloadKind where
  Data := PayloadKind.Data
  typeName := PayloadKind.typeName

namespace DepositedCharge

/-- A deposited charge as JSON. -/
def toJson (deposit : DepositedCharge) : Json :=
  .object [
    ("position", .array [
      .number deposit.position.x, .number deposit.position.y, .number deposit.position.z]),
    ("charge", .number deposit.charge)]

end DepositedCharge

namespace PropagatedCharge

/-- A propagated charge as JSON. -/
def toJson (arrival : PropagatedCharge) : Json :=
  .object [
    ("position", .array [.number arrival.x, .number arrival.y]),
    ("charge", .number arrival.charge)]

/-- The sum of all charges, from negative zero on. -/
def total (arrivals : List PropagatedCharge) : Float :=
  arrivals.foldl (fun sum arrival => sum + arrival.charge) (-0.0)

end PropagatedCharge

namespace PixelHit

/-- A hit as JSON. -/
def toJson (hit : PixelHit) : Json :=
  .object [
    ("column", .integer hit.column),
    ("row", .integer hit.row),
    ("signal", .number hit.signal)]

end PixelHit

namespace PayloadKind

/-- The data of a payload as JSON. -/
def toJson : (kind : PayloadKind) → Data kind → Json
  | .deposited, deposits => .object [("charges", .array (deposits.map DepositedCharge.toJson))]
  | .propagated, arrivals => .object [("charges", .array (arrivals.map PropagatedCharge.toJson))]
  | .hits, found => .object [("hits", .array (found.map PixelHit.toJson))]

end PayloadKind

end DetectorSim.Builtin
