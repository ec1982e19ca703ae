import DetectorSim.Text.Quoted

/-!
# Lines of a configuration

A line is blank, a comment, the header of a section or a key with its value.
Names and keys consist of ASCII letters, digits and underscores; a key starts
with a letter.  Anything else is malformed.
-/

set_option autoImplicit false

namespace DetectorSim.Config

/-- What a line says. -/
inductive Line where
  /-- Nothing, or a comment. -/
  | blank
  /-- A new section starts. -/
  | header (name : String)
  /-- A key gets a value. -/
  | entry (key value : String)
  | malformed
  deriving DecidableEq, Repr, Inhabited

namespace Line

/-- The characters of names and keys. -/
def isNameChar (c : Char) : Bool :=
  c.isAlphanum || c == '_'

/-- Nothing but a comment may follow the header of a section. -/
def endsLine (text : List Char) : Bool :=
  match Text.trim text with
  | [] => true
  | c :: _ => c == '#'

/-- Read what follows an opening bracket. -/
def readHeader (text : List Char) : Line :=
  match text.dropWhile isNameChar with
  | ']' :: rest =>
      if endsLine rest then .header (String.ofList (text.takeWhile isNameChar))
      else .malformed
  | _ => .malformed

/-- Read a key and its value, split at the first equals sign. -/
def readEntry (text : List Char) : Line :=
  match text.dropWhile (· != '=') with
  | [] => .malformed
  | _ :: rest =>
      let key := Text.trim (text.takeWhile (· != '='))
      let value := Text.trim (Text.cutComment rest)
      if key.all isNameChar && !value.isEmpty then
        .entry (String.ofList key) (String.ofList value)
      else .malformed

/-- Read a line that starts and ends without blanks. -/
def readTrimmed (text : List Char) : Line :=
  match text with
  | [] => .blank
  | '#' :: _ => .blank
  | '[' :: rest => readHeader rest
  | c :: _ => if c.isAlpha then readEntry text else .malformed

/-- Read a line. -/
def read (text : List Char) : Line :=
  readTrimmed (Text.trim text)

end Line

end DetectorSim.Config
