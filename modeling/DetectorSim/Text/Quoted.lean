import DetectorSim.Text.Blank

/-!
# Quotes and comments in values

A value may hold stretches between two equal quotes, single or double.  A
scanner that walks a value from the left knows whether it stands inside such a
stretch: `stretch` is `none` outside, and the quote that ends the stretch
inside.  Comments are cut and lists are taken apart by the same scanner, so
both agree on what is quoted.
-/

set_option autoImplicit false

namespace DetectorSim.Text

/-- The two characters that open and close a quoted stretch. -/
def isQuote (c : Char) : Bool :=
  c == '"' || c == Char.ofNat 39

/-- The stretch after `c`, from the stretch before it. -/
def nextStretch (stretch : Option Char) (c : Char) : Option Char :=
  match stretch with
  | some quote => if c == quote then none else some quote
  | none => if isQuote c then some c else none

/-- What stands before the first `#` that is not quoted. -/
def beforeComment : Option Char → List Char → List Char
  | _, [] => []
  | stretch, c :: rest =>
      if stretch.isNone && c == '#' then []
      else c :: beforeComment (nextStretch stretch c) rest

/-- A value without its trailing comment. -/
def cutComment (value : List Char) : List Char :=
  beforeComment none value

/-- `value` without one pair of equal quotes around it. -/
def unquote (value : List Char) : List Char :=
  match value with
  | quote :: rest =>
      if isQuote quote && rest.getLast? == some quote then rest.dropLast
      else value
  | [] => value

/-- Blanks and commas outside of quotes separate the elements of a list. -/
def isSeparator (c : Char) : Bool :=
  isBlank c || c == ','

/-- The word read so far, kept last character first, as a list element; an
empty word is none. -/
def closeWord (word : List Char) : List (List Char) :=
  if word.isEmpty then [] else [word.reverse]

/-- The elements of a list value from the middle of a scan.  `word` holds the
characters of the element under way, last character first. -/
def elementsFrom : Option Char → List Char → List Char → List (List Char)
  | _, word, [] => closeWord word
  | some quote, word, c :: rest =>
      if c == quote then elementsFrom none word rest
      else elementsFrom (some quote) (c :: word) rest
  | none, word, c :: rest =>
      if isQuote c then elementsFrom (some c) word rest
      else if isSeparator c then closeWord word ++ elementsFrom none [] rest
      else elementsFrom none (c :: word) rest

/-- The elements of a list value.  Quotes hold an element together and are not
part of it. -/
def elements (value : List Char) : List (List Char) :=
  elementsFrom none [] value

end DetectorSim.Text
