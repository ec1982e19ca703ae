import DetectorSim.Config.Section
import DetectorSim.Number.Decimal
import DetectorSim.Text.Quoted

/-!
# Typed values

The code that uses a key decides what type its value has.  A value loses one
pair of quotes around it before it is read; a list value is taken apart first,
and each element is read on its own.
-/

set_option autoImplicit false

namespace DetectorSim.Config

/-- How text is read as a value of a type, or why it can not be. -/
abbrev Reading (α : Type) : Type :=
  List Char → Except String α

namespace Reading

/-- Text as it stands. -/
def string : Reading String :=
  fun text => .ok (String.ofList text)

/-- The words for the two truth values. -/
def bool : Reading Bool := fun text =>
  if text = ['t', 'r', 'u', 'e'] then .ok true
  else if text = ['f', 'a', 'l', 's', 'e'] then .ok false
  else .error "provided string was not `true` or `false`"

/-- Integers of a type. -/
def integer (type : Number.IntegerType) : Reading Int := fun text =>
  match Number.readInteger type text with
  | .ok value => .ok value
  | .error err => .error err.message

/-- Natural numbers of 64 bits. -/
def natural : Reading Nat := fun text =>
  match Number.readInteger .u64 text with
  | .ok value => .ok value.toNat
  | .error err => .error err.message

/-- Floating-point numbers. -/
def float : Reading Float := fun text =>
  match Number.readFloat text with
  | .ok value => .ok value
  | .error err => .error err.message

end Reading

namespace Section

variable {α : Type}

/-- Read a text that belongs to a key. -/
def readText (s : Section) (key : String) (read : Reading α) (text : List Char) :
    Except Error α :=
  match read text with
  | .ok value => .ok value
  | .error reason => .error (.invalidValue s.name key (String.ofList text) reason)

/-- The value of a key as a type. -/
def get (s : Section) (key : String) (read : Reading α) : Except Error α :=
  match s.text key with
  | .ok text => s.readText key read (Text.unquote text.toList)
  | .error err => .error err

/-- The value of a key as a type, or a default if the key is not set. -/
def getOr (s : Section) (key : String) (read : Reading α) (default : α) : Except Error α :=
  if s.has key then s.get key read else .ok default

/-- The value of a key as a type, if the key is set. -/
def get? (s : Section) (key : String) (read : Reading α) : Except Error (Option α) :=
  if s.has key then
    match s.get key read with
    | .ok value => .ok (some value)
    | .error err => .error err
  else .ok none

/-- Read the elements of a list value one after the other. -/
def readAll (s : Section) (key : String) (read : Reading α) :
    List (List Char) → Except Error (List α)
  | [] => .ok []
  | text :: rest =>
      match s.readText key read text with
      | .error err => .error err
      | .ok value =>
          match s.readAll key read rest with
          | .error err => .error err
          | .ok values => .ok (value :: values)

/-- The elements of a list value as a type. -/
def getArray (s : Section) (key : String) (read : Reading α) : Except Error (List α) :=
  match s.text key with
  | .ok text => s.readAll key read (Text.elements text.toList)
  | .error err => .error err

/-- The value of a key as a path.  A relative path starts at the directory of
the file that the section was read from. -/
def getPath (s : Section) (key : String) : Except Error String :=
  match s.get key .string with
  | .ok path => .ok (Path.resolve s.file path)
  | .error err => .error err

end Section

end DetectorSim.Config
