import DetectorSim.Config.Line
import DetectorSim.Config.Section
import DetectorSim.Text.Lines
import DetectorSim.Log

/-!
# Reading a configuration

A reader collects the sections of any number of texts.  A section ends where
the next one starts or where its text ends; the section before the first header
has no name.  Sections without name and keys are dropped, except at the end of
a text.  When a line is malformed or can not be read, the sections that were
already closed stay in the reader.
-/

set_option autoImplicit false

namespace DetectorSim.Config

/-- A line as it comes from a text or a file. -/
abbrev SourceLine : Type :=
  Except FileError (List Char)

/-- The lines of a text that is to be read. -/
structure Source where
  lines : List SourceLine

namespace Source

/-- The lines of a text. -/
def ofString (text : String) : Source :=
  ⟨(Text.linesOf '\n' text.toList).map .ok⟩

/-- One line of a file, which has to be UTF-8. -/
def decodeLine (bytes : List UInt8) : SourceLine :=
  match String.fromUTF8? ⟨bytes.toArray⟩ with
  | some text => .ok text.toList
  | none => .error .invalidText

/-- The lines of a file with the given content. -/
def ofBytes (bytes : ByteArray) : Source :=
  ⟨(Text.linesOf 10 bytes.toList).map decodeLine⟩

/-- A file that fails when it is read. -/
def failing (err : FileError) : Source :=
  ⟨[.error err]⟩

end Source

/-- The sections read so far, in order. -/
structure Reader where
  sections : List Section
  deriving DecidableEq, Repr, Inhabited

namespace Reader

/-- A reader without sections. -/
def empty : Reader :=
  ⟨[]⟩

/-- A section that a header ends is kept if it has a name or a key. -/
def closeSection (current : Section) : List Section :=
  if current.name.isEmpty && current.entries.isEmpty then [] else [current]

/-- Read the lines from a given number on, with `current` as the open section.
The result holds the sections that were closed, also those before an error. -/
def readLines (file : Option String) :
    Nat → Section → List SourceLine → Except Error Unit × List Section
  | _, current, [] => (.ok (), [current])
  | _, _, .error err :: _ => (.error (.fileError err), [])
  | number, current, .ok text :: rest =>
      match Line.read text with
      | .blank => readLines file (number + 1) current rest
      | .entry key value => readLines file (number + 1) (current.set key value) rest
      | .header name =>
          match readLines file (number + 1) (Section.empty name file) rest with
          | (result, closed) => (result, closeSection current ++ closed)
      | .malformed => (.error (.malformedLine (file.getD "") number), [])

/-- Read a source and append its sections. -/
def add (reader : Reader) (source : Source) (file : Option String) :
    Except Error Unit × Reader :=
  match readLines file 1 (Section.empty "" file) source.lines with
  | (result, closed) => (result, ⟨reader.sections ++ closed⟩)

/-- Read a source into a reader, with a note in the log. -/
def parse (source : Source) (file : Option String) : Proc (Reader × Journal) Unit := do
  Proc.log .trace ("Parsing configuration file '" ++ file.getD "" ++ "'")
  fun (reader, journal) =>
    match reader.add source file with
    | (result, reader) => (.ofExcept result, (reader, journal))

/-- Read a text into a new reader. -/
def ofString (text : String) : Proc Journal Reader := fun journal =>
  match parse (.ofString text) none (empty, journal) with
  | (outcome, (reader, journal)) => (outcome.map fun _ => reader, journal)

/-- Whether two texts are equal up to the case of ASCII letters. -/
def sameName (a b : String) : Bool :=
  a.toList.map Char.toLower == b.toList.map Char.toLower

/-- The sections with a given name, in any case. -/
def named (reader : Reader) (name : String) : List Section :=
  reader.sections.filter fun s => sameName s.name name

/-- Whether there is a section with a given name, in any case. -/
def has (reader : Reader) (name : String) : Bool :=
  reader.sections.any fun s => sameName s.name name

/-- The sections without a name. -/
def headers (reader : Reader) : List Section :=
  reader.sections.filter fun s => s.name.isEmpty

/-- The sections with a name. -/
def moduleSections (reader : Reader) : List Section :=
  reader.sections.filter fun s => !s.name.isEmpty

/-- All sections without a name in one; the first value of a key counts.  The
result belongs to the file of the first section of all. -/
def header (reader : Reader) : Section :=
  reader.headers.foldl Section.merge
    (Section.empty "" (reader.sections.head?.bind fun s => s.file))

end Reader

end DetectorSim.Config
