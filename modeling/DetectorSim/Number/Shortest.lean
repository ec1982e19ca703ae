import DetectorSim.Number.Decimal

/-!
# The shortest decimal of a binary number

Among the decimals that read back as a given binary number, the ones with the
fewest digits are the shortest, and of these the nearest to the number is
chosen; of two equally near ones it is the one with an even last digit.  For a
given number of digits only the two neighbours of the number on the decimal
grid have to be looked at.
-/

set_option autoImplicit false

namespace DetectorSim.Number

/-- A positive decimal `digits * 10 ^ exponent`. -/
structure Scaled where
  digits : Nat
  exponent : Int
  deriving DecidableEq, Repr, Inhabited

/-- A fraction of two natural numbers. -/
structure Fraction where
  num : Nat
  den : Nat
  deriving DecidableEq, Repr, Inhabited

namespace Fraction

/-- `mantissa * base ^ exponent`. -/
def ofPower (mantissa base : Nat) (exponent : Int) : Fraction :=
  ⟨mantissa * powerUp base exponent, powerUp base (-exponent)⟩

/-- The order of fractions with positive denominators. -/
def lt (a b : Fraction) : Bool :=
  a.num * b.den < b.num * a.den

/-- The distance of two fractions. -/
def distance (a b : Fraction) : Fraction :=
  let left := a.num * b.den
  let right := b.num * a.den
  ⟨(left - right) + (right - left), a.den * b.den⟩

/-- The largest exponent of ten whose power is at most a positive fraction. -/
def decimalLog (f : Fraction) : Int :=
  if f.den ≤ f.num then (digitCount (f.num / f.den) : Int) - 1
  else -(digitCount ((f.den + f.num - 1) / f.num - 1) : Int)

end Fraction

namespace Magnitude

/-- The number itself as a fraction. -/
def value (m : Magnitude) : Fraction :=
  Fraction.ofPower m.mantissa 2 m.exponent

/-- The upper end of the interval that rounds to a number. -/
def upper (m : Magnitude) : Fraction :=
  Fraction.ofPower (2 * m.mantissa + 1) 2 (m.exponent - 1)

/-- The lower end of the interval that rounds to a number.  Below a power of
two the next number is only half as far away. -/
def lower (m : Magnitude) : Fraction :=
  if m.mantissa == leadingBit && leastExponent < m.exponent then
    Fraction.ofPower (4 * m.mantissa - 1) 2 (m.exponent - 2)
  else Fraction.ofPower (2 * m.mantissa - 1) 2 (m.exponent - 1)

/-- Whether a fraction rounds to a number: it lies between the ends, or on one
of them if the mantissa is even. -/
def rounds (m : Magnitude) (f : Fraction) : Bool :=
  if m.mantissa % 2 == 0 then !f.lt m.lower && !m.upper.lt f
  else m.lower.lt f && f.lt m.upper

/-- The neighbour of a number on the grid of the multiples of
`10 ^ exponent` that rounds to the number, the nearer one if both do, and the
even one of two equally near ones. -/
def onGrid? (m : Magnitude) (exponent : Int) : Option Scaled :=
  let scaled := Fraction.ofPower m.mantissa 2 m.exponent
  let below := scaled.num * powerUp 10 (-exponent) / (scaled.den * powerUp 10 exponent)
  let above := below + 1
  let point (digits : Nat) := Fraction.ofPower digits 10 exponent
  match m.rounds (point below), m.rounds (point above) with
  | true, true =>
      let toBelow := (point below).distance m.value
      let toAbove := (point above).distance m.value
      let upwards := toAbove.lt toBelow || (!toBelow.lt toAbove && below % 2 == 1)
      some ⟨if upwards then above else below, exponent⟩
  | true, false => some ⟨below, exponent⟩
  | false, true => some ⟨above, exponent⟩
  | false, false => none

/-- Try ever finer grids, at most `tries` of them. -/
def shortestFrom (m : Magnitude) : Nat → Int → Scaled
  | 0, exponent => ⟨m.mantissa, exponent⟩
  | tries + 1, exponent =>
      match m.onGrid? exponent with
      | some found => found
      | none => shortestFrom m tries (exponent - 1)

/-- The shortest decimal of a positive number; seventeen digits always
suffice. -/
def shortest (m : Magnitude) : Scaled :=
  shortestFrom m 17 m.value.decimalLog

end Magnitude

end DetectorSim.Number
