import DetectorSim.Number.Shortest

/-!
# JSON texts

Reports and hits are written as JSON without any blanks.  The members of an
object keep the order in which they are given.  Floating-point numbers are
written with the fewest digits that read back; infinities and not-a-number are
written as `null`.
-/

set_option autoImplicit false

namespace DetectorSim

/-- A JSON value. -/
inductive Json where
  | null
  | bool (value : Bool)
  | integer (value : Int)
  | number (value : Float)
  | string (value : String)
  | array (items : List Json)
  | object (members : List (String × Json))
  deriving Inhabited

/-- How a decimal is laid out. -/
structure DecimalLayout where
  /-- The least exponent of the leading digit that is written out. -/
  leastWritten : Int
  /-- The greatest exponent of the leading digit that is written out. -/
  greatestWritten : Int
  /-- The sign in front of a positive exponent. -/
  positiveExponent : String
  deriving Repr

namespace DecimalLayout

/-- Zeros. -/
def zeros (count : Nat) : List Char :=
  List.replicate count '0'

/-- Decimal digits with a point after the first `count` of them, filled up
with zeros on the right. -/
def withPoint (digits : List Char) (count : Nat) : List Char :=
  let whole := digits.take count ++ zeros (count - digits.length)
  let fraction := digits.drop count
  whole ++ ['.'] ++ (if fraction.isEmpty then ['0'] else fraction)

/-- A leading digit, the other digits after a point, and an exponent. -/
def withExponent (layout : DecimalLayout) (digits : List Char) (exponent : Int) : List Char :=
  let fraction := digits.drop 1
  let sign := if exponent < 0 then "-" else layout.positiveExponent
  digits.take 1 ++ (if fraction.isEmpty then [] else '.' :: fraction)
    ++ ['e'] ++ sign.toList ++ Nat.toDigits 10 exponent.natAbs

/-- The digits of a number without the zeros at their end. -/
def significantDigits (n : Nat) : List Char :=
  ((Nat.toDigits 10 n).reverse.dropWhile (· == '0')).reverse

/-- Lay out a positive decimal. -/
def write (layout : DecimalLayout) (value : Number.Scaled) : List Char :=
  let digits := significantDigits value.digits
  let leading := value.exponent + Number.digitCount value.digits - 1
  if leading < layout.leastWritten || layout.greatestWritten < leading then
    layout.withExponent digits leading
  else if leading < 0 then
    ['0', '.'] ++ zeros (leading.natAbs - 1) ++ digits
  else withPoint digits (leading.toNat + 1)

end DecimalLayout

namespace Json

/-- Numbers are written out from `0.00001` on and below `10 ^ 16`. -/
def layout : DecimalLayout := ⟨-5, 15, "+"⟩

/-- A floating-point number. -/
def writeFloat (value : Float) : String :=
  let bits := value.toBits
  let sign := if bits.toNat < Number.signBit then "" else "-"
  match Number.Magnitude.ofBits? bits with
  | none => "null"
  | some magnitude =>
      if magnitude.mantissa == 0 then sign ++ "0.0"
      else sign ++ String.ofList (layout.write magnitude.shortest)

/-- Two hexadecimal digits. -/
def hexPair (n : Nat) : List Char :=
  let digits := Nat.toDigits 16 n
  DecimalLayout.zeros (2 - digits.length) ++ digits

/-- One character of a string. -/
def writeChar (c : Char) : List Char :=
  if c == '"' then ['\\', '"']
  else if c == '\\' then ['\\', '\\']
  else if c.toNat == 0x08 then ['\\', 'b']
  else if c.toNat == 0x09 then ['\\', 't']
  else if c.toNat == 0x0A then ['\\', 'n']
  else if c.toNat == 0x0C then ['\\', 'f']
  else if c.toNat == 0x0D then ['\\', 'r']
  else if c.toNat < 0x20 then ['\\', 'u', '0', '0'] ++ hexPair c.toNat
  else [c]

/-- A string between its quotes. -/
def writeString (text : String) : String :=
  String.ofList (['"'] ++ text.toList.flatMap writeChar ++ ['"'])

mutual

/-- The text of a value. -/
def render : Json → String
  | .null => "null"
  | .bool true => "true"
  | .bool false => "false"
  | .integer value => toString value
  | .number value => writeFloat value
  | .string value => writeString value
  | .array items => "[" ++ ",".intercalate (renderItems items) ++ "]"
  | .object members => "\x7b" ++ ",".intercalate (renderMembers members) ++ "\x7d"

/-- The texts of the items of an array. -/
def renderItems : List Json → List String
  | [] => []
  | item :: rest => render item :: renderItems rest

/-- The texts of the members of an object. -/
def renderMembers : List (String × Json) → List String
  | [] => []
  | (name, value) :: rest =>
      (writeString name ++ ":" ++ render value) :: renderMembers rest

end

/-- A value that may be missing. -/
def optional {α : Type} (encode : α → Json) : Option α → Json
  | none => .null
  | some value => encode value

end Json

end DetectorSim
