/-!
# Binary floating-point numbers of 64 bits

A finite number that is not negative is `mantissa * 2 ^ exponent` with a
mantissa below `2 ^ 53` and an exponent of at least `-1074`.  This module takes
such numbers apart and rounds quotients of natural numbers to them, to the
nearest one and in a tie to the even mantissa.
-/

set_option autoImplicit false

namespace DetectorSim.Number

/-- The least exponent of a number. -/
def leastExponent : Int := -1074

/-- The bit in front of the 52 bits of a mantissa. -/
def leadingBit : Nat := 0x10000000000000

/-- The bits of infinity. -/
def infinityBits : Nat := 2047 * leadingBit

/-- A finite number that is not negative. -/
structure Magnitude where
  mantissa : Nat
  exponent : Int
  deriving DecidableEq, Repr, Inhabited

namespace Magnitude

/-- The number that given bits denote, if they are those of a finite number;
the sign bit is not looked at. -/
def ofBits? (bits : UInt64) : Option Magnitude :=
  let biased := bits.toNat / leadingBit % 2048
  let fraction := bits.toNat % leadingBit
  if biased == 2047 then none
  else if biased == 0 then some ⟨fraction, leastExponent⟩
  else some ⟨leadingBit + fraction, leastExponent + (biased - 1 : Nat)⟩

end Magnitude

/-- `base ^ exponent` if the exponent is positive, else one. -/
def powerUp (base : Nat) (exponent : Int) : Nat :=
  Nat.pow base exponent.toNat

/-- The largest power of two that is at most `num / den`, for positive
arguments. -/
def binaryLog (num den : Nat) : Int :=
  let guess : Int := num.log2 - den.log2
  if num * powerUp 2 (-guess) < den * powerUp 2 guess then guess - 1 else guess

/-- The integer nearest to `num / den`, the even one in a tie. -/
def roundQuotient (num den : Nat) : Nat :=
  let quotient := num / den
  let twice := 2 * (num % den)
  if twice < den then quotient
  else if den < twice then quotient + 1
  else quotient + quotient % 2

/-- The bits of the number nearest to `num / den`, for positive arguments.
Mantissas that round up to the next power of two carry into the exponent
bits. -/
def nearestBits (num den : Nat) : Nat :=
  let exponent := max (binaryLog num den - 52) leastExponent
  let mantissa := roundQuotient (num * powerUp 2 (-exponent)) (den * powerUp 2 exponent)
  min ((exponent - leastExponent).toNat * leadingBit + mantissa) infinityBits

/-- The bit that is set in negative numbers. -/
def signBit : Nat := 0x8000000000000000

/-- The number with the given bits and sign. -/
def signedFloat (negative : Bool) (bits : Nat) : Float :=
  Float.ofBits (UInt64.ofNat (if negative then signBit + bits else bits))

end DetectorSim.Number
