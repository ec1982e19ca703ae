import DetectorSim.Number.Integer
import DetectorSim.Number.Binary64

/-!
# Floating-point numbers in text

A number is written in decimal, with an optional sign, fraction and exponent,
or as one of the words for infinity and for no number.  It denotes the binary
number nearest to the decimal one.
-/

set_option autoImplicit false

namespace DetectorSim.Number

/-- Why a text is no floating-point number. -/
inductive FloatError where
  | empty
  | invalid
  deriving DecidableEq, Repr, Inhabited

namespace FloatError

/-- The reason as the user reads it. -/
def message : FloatError → String
  | .empty => "cannot parse float from empty string"
  | .invalid => "invalid float literal"

end FloatError

/-- What a number text says, before it is rounded. -/
inductive Numeral where
  | decimal (negative : Bool) (coefficient : Nat) (exponent : Int)
  | infinite (negative : Bool)
  | notANumber
  deriving DecidableEq, Repr, Inhabited

/-- The value of a list of digits. -/
def digitsValue (digits : List Char) : Nat :=
  digits.foldl (fun value c => 10 * value + (c.toNat - '0'.toNat)) 0

/-- Take a sign off the start of a text. -/
def takeSign : List Char → Bool × List Char
  | '-' :: rest => (true, rest)
  | '+' :: rest => (false, rest)
  | text => (false, text)

/-- Read the exponent after a coefficient; nothing there is exponent zero. -/
def readExponent? (text : List Char) : Option Int :=
  match text with
  | [] => some 0
  | mark :: rest =>
      let (negative, digits) := takeSign rest
      if mark.toLower == 'e' && !digits.isEmpty && digits.all Char.isDigit then
        some (if negative then -(digitsValue digits : Int) else digitsValue digits)
      else none

/-- Split the digits of the fraction from what follows a coefficient. -/
def takeFraction : List Char → List Char × List Char
  | '.' :: rest => (rest.takeWhile Char.isDigit, rest.dropWhile Char.isDigit)
  | text => ([], text)

/-- Read a number text without its sign. -/
def readUnsigned? (negative : Bool) (text : List Char) : Option Numeral :=
  let lowered := String.ofList (text.map Char.toLower)
  if lowered == "inf" || lowered == "infinity" then some (.infinite negative)
  else if lowered == "nan" then some .notANumber
  else
    let whole := text.takeWhile Char.isDigit
    let (fraction, rest) := takeFraction (text.dropWhile Char.isDigit)
    let digits := whole ++ fraction
    if digits.isEmpty then none
    else
      (readExponent? rest).map fun exponent =>
        .decimal negative (digitsValue digits) (exponent - fraction.length)

/-- Read a number text. -/
def readNumeral (text : List Char) : Except FloatError Numeral :=
  if text.isEmpty then .error .empty
  else
    let (negative, rest) := takeSign text
    match readUnsigned? negative rest with
    | some numeral => .ok numeral
    | none => .error .invalid

/-- The number of decimal digits of a natural number, none for zero. -/
def digitCount (n : Nat) : Nat :=
  if n == 0 then 0 else (Nat.toDigits 10 n).length

/-- The bits of the binary number nearest to `coefficient * 10 ^ exponent`.
Exponents far outside of the range of binary numbers are not computed with. -/
def decimalBits (coefficient : Nat) (exponent : Int) : Nat :=
  let scale := exponent + digitCount coefficient
  if coefficient == 0 || scale < -400 then 0
  else if 400 < scale then infinityBits
  else nearestBits (coefficient * powerUp 10 exponent) (powerUp 10 (-exponent))

namespace Numeral

/-- The binary number that a number text denotes. -/
def toFloat : Numeral → Float
  | .decimal negative coefficient exponent =>
      signedFloat negative (decimalBits coefficient exponent)
  | .infinite negative => signedFloat negative infinityBits
  | .notANumber => Float.ofBits 0x7FF8000000000000

end Numeral

/-- Read a floating-point number. -/
def readFloat (text : List Char) : Except FloatError Float :=
  match readNumeral text with
  | .ok numeral => .ok numeral.toFloat
  | .error err => .error err

end DetectorSim.Number
