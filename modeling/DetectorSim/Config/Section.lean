import DetectorSim.Error
import DetectorSim.Path
import DetectorSim.Json

/-!
# Configuration sections

A section is a name and an ordered list of keys with their values.  Values stay
text until they are read as a type.  No operation moves, renames or removes a
key: setting replaces a value in place, and a new key goes to the end.
-/

set_option autoImplicit false

namespace DetectorSim.Config

/-- One section of a configuration. -/
structure Section where
  name : String
  /-- The file that the section was read from. -/
  file : Option String
  entries : List (String × String)
  deriving DecidableEq, Repr, Inhabited

namespace Section

/-- A section without keys. -/
def empty (name : String) (file : Option String) : Section :=
  ⟨name, file, []⟩

/-- The value of a key in a list of entries. -/
def lookup (key : String) : List (String × String) → Option String
  | [] => none
  | (other, value) :: rest => if other = key then some value else lookup key rest

/-- The value of a key, quotes included. -/
def text? (s : Section) (key : String) : Option String :=
  lookup key s.entries

/-- Whether a key is set. -/
def has (s : Section) (key : String) : Bool :=
  (s.text? key).isSome

/-- The keys, in order. -/
def keys (s : Section) : List String :=
  s.entries.map Prod.fst

/-- Replace the value of a key in a list of entries, or add it at the end. -/
def setIn (key value : String) : List (String × String) → List (String × String)
  | [] => [(key, value)]
  | (other, held) :: rest =>
      if other = key then (other, value) :: rest else (other, held) :: setIn key value rest

/-- Set a key. -/
def set (s : Section) (key value : String) : Section :=
  { s with entries := setIn key value s.entries }

/-- Set a key unless it is set. -/
def setDefault (s : Section) (key value : String) : Section :=
  if s.has key then s else { s with entries := s.entries ++ [(key, value)] }

/-- Take over the keys of another section that are not set here. -/
def merge (s other : Section) : Section :=
  other.entries.foldl (fun merged entry => merged.setDefault entry.1 entry.2) s

/-- The value of a key, quotes included, or the error that it is missing. -/
def text (s : Section) (key : String) : Except Error String :=
  match s.text? key with
  | some value => .ok value
  | none => .error (.missingKey s.name key)

/-- The error that the value of a key is not acceptable. -/
def invalidValue (s : Section) (key reason : String) : Error :=
  .invalidValue s.name key ((s.text? key).getD "") reason

/-- What the value of a key stands for, or the error that it is not
acceptable. -/
def accept {α : Type} (s : Section) (key : String) : Except String α → Except Error α
  | .ok value => .ok value
  | .error reason => .error (s.invalidValue key reason)

/-- The section as JSON. -/
def toJson (s : Section) : Json :=
  .object [
    ("name", .string s.name),
    ("file_path", Json.optional .string s.file),
    ("entries", .array (s.entries.map fun entry =>
      .array [.string entry.1, .string entry.2]))]

end Section

end DetectorSim.Config
