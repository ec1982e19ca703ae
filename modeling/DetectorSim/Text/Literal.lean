import DetectorSim.Text.Coded

/-!
# Text literals

Names that come from the user are shown between double quotes in some error
messages and in the description of a module type.  Quotes, backslashes, NUL,
tabs and line ends are escaped with a backslash, characters that are not
printable by their code point.
-/

set_option autoImplicit false

namespace DetectorSim.Text

/-- One character of a text literal. -/
def literalChar (c : Char) : List Char :=
  if c == Char.ofNat 0 then ['\\', '0']
  else if c == '\t' then ['\\', 't']
  else if c == '\r' then ['\\', 'r']
  else if c == '\n' then ['\\', 'n']
  else if c == '"' then ['\\', '"']
  else if c == '\\' then ['\\', '\\']
  else if isCoded c then ['\\', 'u', '\x7b'] ++ Nat.toDigits 16 c.toNat ++ ['\x7d']
  else [c]

/-- A text between double quotes. -/
def literal (text : String) : String :=
  String.ofList (['"'] ++ text.toList.flatMap literalChar ++ ['"'])

/-- A list of texts between square brackets. -/
def literalList (texts : List String) : String :=
  "[" ++ ", ".intercalate (texts.map literal) ++ "]"

end DetectorSim.Text
