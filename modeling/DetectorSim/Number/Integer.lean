/-!
# Integers in text

A bounded integer is written in decimal, with an optional sign.  Digits are
taken from the left, and the first one that is no digit or that leaves the
bounds decides the error.
-/

set_option autoImplicit false

namespace DetectorSim.Number

/-- A type of integers of a fixed number of bits. -/
structure IntegerType where
  signed : Bool
  bits : Nat
  deriving DecidableEq, Repr, Inhabited

namespace IntegerType

/-- The smallest integer of a type. -/
def low (type : IntegerType) : Int :=
  if type.signed then -(1 <<< (type.bits - 1) : Nat) else 0

/-- The largest integer of a type. -/
def high (type : IntegerType) : Int :=
  if type.signed then (1 <<< (type.bits - 1) : Nat) - 1 else (1 <<< type.bits : Nat) - 1

/-- Unsigned integers of eight bits. -/
def u8 : IntegerType := ⟨false, 8⟩

/-- Unsigned integers of 32 bits. -/
def u32 : IntegerType := ⟨false, 32⟩

/-- Unsigned integers of 64 bits. -/
def u64 : IntegerType := ⟨false, 64⟩

/-- Signed integers of 32 bits. -/
def i32 : IntegerType := ⟨true, 32⟩

/-- Signed integers of 64 bits. -/
def i64 : IntegerType := ⟨true, 64⟩

end IntegerType

/-- Why a text is no integer of a type. -/
inductive IntegerError where
  | empty
  | invalidDigit
  | tooLarge
  | tooSmall
  deriving DecidableEq, Repr, Inhabited

namespace IntegerError

/-- The reason as the user reads it. -/
def message : IntegerError → String
  | .empty => "cannot parse integer from empty string"
  | .invalidDigit => "invalid digit found in string"
  | .tooLarge => "number too large to fit in target type"
  | .tooSmall => "number too small to fit in target type"

end IntegerError

/-- The value of a decimal digit. -/
def digit? (c : Char) : Option Nat :=
  if c.isDigit then some (c.toNat - '0'.toNat) else none

/-- Append digits to a value, away from zero, as long as the type holds it. -/
def appendDigits (type : IntegerType) (negative : Bool) :
    Int → List Char → Except IntegerError Int
  | value, [] => .ok value
  | value, c :: rest =>
      match digit? c with
      | none => .error .invalidDigit
      | some digit =>
          let next := if negative then value * 10 - digit else value * 10 + digit
          if type.high < next then .error .tooLarge
          else if next < type.low then .error .tooSmall
          else appendDigits type negative next rest

/-- Read an integer of a type.  A minus is only a sign for signed types. -/
def readInteger (type : IntegerType) (text : List Char) : Except IntegerError Int :=
  match text with
  | [] => .error .empty
  | ['+'] => .error .invalidDigit
  | ['-'] => .error .invalidDigit
  | '+' :: digits => appendDigits type false 0 digits
  | '-' :: digits =>
      if type.signed then appendDigits type true 0 digits
      else .error .invalidDigit
  | digits => appendDigits type false 0 digits

end DetectorSim.Number
