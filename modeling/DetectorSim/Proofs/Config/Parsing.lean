import Mathlib.Data.List.Basic
import Mathlib.Data.List.Forall2
import DetectorSim.Config.Reader
import DetectorSim.Proofs.Config.Grammar
import DetectorSim.Proofs.Text.Bytes
import DetectorSim.Proofs.Text.Lines

/-!
# Reading a text

A text is read if all its lines are, and otherwise up to the first line that is not.
The lines are divided at the headers; every stretch is a section, with the settings that
the lines of the stretch make.  What is read does not depend on what the reader has read
before.
-/

set_option autoImplicit false

namespace DetectorSim.Config

open DetectorSim.Text

/-! ## Encoded texts -/

namespace Source

/-- A line is decoded to what it was encoded from. -/
theorem decodeLine_flatMap (line : List Char) :
    decodeLine (line.flatMap String.utf8EncodeChar) = .ok line := by
  have code : (⟨(line.flatMap String.utf8EncodeChar).toArray⟩ : ByteArray) =
      (String.ofList line).toByteArray := by
    rw [← String.utf8Encode_toList, String.toList_ofList, List.utf8Encode]
    exact ByteArray.ext List.data_toByteArray.symm
  unfold decodeLine
  rw [code, String.fromUTF8?, dif_pos (String.ofList line).isValidUTF8]
  exact congrArg Except.ok String.toList_ofList

theorem notMem_utf8EncodeChar {c : Char} (other : c ≠ '\n') :
    (10 : UInt8) ∉ String.utf8EncodeChar c := by
  have apart : c.val.toNat ≠ 10 := fun same => other (Char.ext (UInt32.toNat_inj.mp same))
  simp only [String.utf8EncodeChar]
  generalize c.val.toNat = code at apart
  split_ifs <;> simp [← UInt8.toNat_inj] <;> omega

theorem utf8EncodeChar_ne_nil (c : Char) : String.utf8EncodeChar c ≠ [] := by
  unfold String.utf8EncodeChar
  simp only
  split_ifs <;> simp

/-- The lines of an encoded text are the lines of the text. -/
theorem ofBytes_toUTF8 (text : String) : ofBytes text.toUTF8 = ofString text := by
  have keeps : String.utf8EncodeChar '\n' = [10] := by decide
  unfold ofBytes ofString
  rw [toList_toUTF8, linesOf_flatMap_code keeps (fun _ => notMem_utf8EncodeChar)
    utf8EncodeChar_ne_nil, List.map_map]
  exact congrArg Source.mk (List.map_congr_left fun line _ => decodeLine_flatMap line)

end Source

/-! ## Sections of lines -/

namespace Line

/-- The name of the section that a line opens. -/
def name? : Line → Option String
  | .header name => some name
  | _ => none

/-- The key that a line sets, with its value. -/
def setting? : Line → Option (String × String)
  | .entry key value => some (key, value)
  | _ => none

end Line

namespace Section

/-- A section after further settings. -/
def setAll (s : Section) (settings : List (String × String)) : Section :=
  settings.foldl (fun s setting => s.set setting.1 setting.2) s

/-- A section after further lines. -/
def extend (s : Section) (lines : List Line) : Section :=
  s.setAll (lines.filterMap Line.setting?)

theorem extend_cons (s : Section) (line : Line) (rest : List Line) :
    s.extend (line :: rest) = (s.extend [line]).extend rest := by
  unfold extend setAll
  rw [← List.foldl_append, ← List.filterMap_append, List.singleton_append]

end Section

variable {file : Option String}

/-- The sections of lines that come after the start of a section, that one first. -/
def sectionsFrom (file : Option String) (current : Section) (lines : List Line) :
    List Section :=
  List.zipWith Section.extend
    (current :: (lines.filterMap Line.name?).map fun name => Section.empty name file)
    (lines.splitOnP fun line => line.name?.isSome)

/-- The sections of lines.  The first one has no name and ends at the first header. -/
def sectionsOf (file : Option String) (lines : List Line) : List Section :=
  sectionsFrom file (Section.empty "" file) lines

/-- The sections that are followed by another one, without those that have neither a name
nor a key. -/
def closedAmong (sections : List Section) : List Section :=
  sections.dropLast.filter fun s => s.name ≠ "" ∨ s.entries ≠ []

theorem sectionsFrom_cons {line : Line} (inside : line.name? = none) (current : Section)
    (rest : List Line) :
    sectionsFrom file current (line :: rest) =
      sectionsFrom file (current.extend [line]) rest := by
  unfold sectionsFrom
  rw [List.splitOnP_cons_eq_if_modifyHead, inside, List.filterMap_cons_none inside]
  obtain ⟨first, others, split⟩ := List.exists_cons_of_ne_nil
    (List.splitOnP_ne_nil (fun line : Line => line.name?.isSome) rest)
  rw [if_neg (by simp), split, List.modifyHead_cons, List.zipWith_cons_cons,
    List.zipWith_cons_cons, current.extend_cons]

theorem sectionsFrom_header (name : String) (current : Section) (rest : List Line) :
    sectionsFrom file current (.header name :: rest) =
      current :: sectionsFrom file (Section.empty name file) rest := by
  unfold sectionsFrom
  rw [List.splitOnP_cons_eq_if_modifyHead, if_pos (by rfl), List.zipWith_cons_cons]
  rfl

/-- Lines that mean something are read as what they mean. -/
theorem map_read_eq {texts : List (List Char)} {lines : List Line}
    (good : List.Forall₂ Line.Reads texts lines) : texts.map Line.read = lines := by
  induction good with
  | nil => rfl
  | cons reads _ ih => rw [List.map_cons, (Line.reads_iff.mp reads).1, ih]

/-- Lines that are not malformed mean what they are read as. -/
theorem reads_map_read {texts : List (List Char)}
    (all : ∀ text ∈ texts, Line.read text ≠ .malformed) :
    List.Forall₂ Line.Reads texts (texts.map Line.read) :=
  List.forall₂_map_right_iff.mpr (List.forall₂_same.mpr fun text mem =>
    Line.reads_iff.mpr ⟨rfl, all text mem⟩)

/-! ## Reading lines -/

namespace Reader

theorem closeSection_eq_filter (s : Section) :
    closeSection s = [s].filter fun s => s.name ≠ "" ∨ s.entries ≠ [] := by
  unfold closeSection
  by_cases unnamed : s.name = "" <;> by_cases bare : s.entries = [] <;> simp [unnamed, bare]

/-- Lines that mean something are read one after the other, and the last of their sections
stays open. -/
theorem exists_readLines_append {texts : List (List Char)} {lines : List Line}
    (good : List.Forall₂ Line.Reads texts lines) (file : Option String) (number : Nat)
    (current : Section) :
    ∃ front last, sectionsFrom file current lines = front ++ [last] ∧
      ∀ rest, readLines file number current (texts.map .ok ++ rest) =
        ((readLines file (number + texts.length) last rest).1,
          closedAmong (front ++ [last]) ++
            (readLines file (number + texts.length) last rest).2) := by
  induction good generalizing number current with
  | nil => exact ⟨[], current, rfl, fun rest => rfl⟩
  | @cons text line texts lines reads _ ih =>
    have read := (Line.reads_iff.mp reads).1
    have next (s : Section) := ih (number + 1) s
    simp only [Nat.add_right_comm number 1, Nat.add_assoc number] at next
    cases line with
    | malformed => exact absurd rfl (Line.reads_iff.mp reads).2
    | blank =>
      obtain ⟨front, last, split, later⟩ := next current
      refine ⟨front, last, (sectionsFrom_cons rfl current lines).trans split, fun rest => ?_⟩
      rw [List.map_cons, List.cons_append, readLines, read]
      exact later rest
    | entry key value =>
      obtain ⟨front, last, split, later⟩ := next (current.set key value)
      refine ⟨front, last, (sectionsFrom_cons rfl current lines).trans split, fun rest => ?_⟩
      rw [List.map_cons, List.cons_append, readLines, read]
      exact later rest
    | header name =>
      obtain ⟨front, last, split, later⟩ := next (Section.empty name file)
      refine ⟨current :: front, last, ?_, fun rest => ?_⟩
      · rw [sectionsFrom_header, split, List.cons_append]
      · rw [List.map_cons, List.cons_append, readLines, read]
        simp only [later rest, closeSection_eq_filter, closedAmong, List.dropLast_concat]
        rw [← List.append_assoc, ← List.filter_append, List.singleton_append, List.length_cons]

/-- How far lines are read, and the sections that this makes. -/
inductive Parses (file : Option String) (texts : List (List Char)) :
    Except Error Unit → List Section → Prop where
  /-- All lines mean something; the last section is kept in any case. -/
  | whole {lines : List Line} (good : List.Forall₂ Line.Reads texts lines) :
      Parses file texts (.ok ())
        (closedAmong (sectionsOf file lines) ++ (sectionsOf file lines).getLast?.toList)
  /-- The first line that means nothing is found; the section that is open is lost. -/
  | stopped {front rest : List (List Char)} {bad : List Char} {lines : List Line}
      (split : texts = front ++ bad :: rest) (good : List.Forall₂ Line.Reads front lines)
      (malformed : ¬ Line.Readable bad) :
      Parses file texts (.error (.malformedLine (file.getD "") (front.length + 1)))
        (closedAmong (sectionsOf file lines))

variable {texts : List (List Char)} {outcome : Except Error Unit} {appended : List Section}

theorem Parses.readLines_eq (parses : Parses file texts outcome appended) :
    readLines file 1 (Section.empty "" file) (texts.map .ok) = (outcome, appended) := by
  cases parses with
  | @whole lines good =>
    obtain ⟨front, last, split, read⟩ :=
      exists_readLines_append good file 1 (Section.empty "" file)
    rw [← List.append_nil (texts.map Except.ok), read [], sectionsOf, split, readLines,
      List.getLast?_concat]
    rfl
  | @stopped front rest bad lines split good malformed =>
    obtain rfl := split
    obtain ⟨closed, last, split, read⟩ :=
      exists_readLines_append good file 1 (Section.empty "" file)
    have nothing : Line.read bad = .malformed := by
      by_contra good
      exact malformed (Line.readable_iff.mpr good)
    rw [List.map_append, List.map_cons, read, sectionsOf, split, readLines, nothing]
    simp [Nat.add_comm]

theorem exists_parses (file : Option String) (texts : List (List Char)) :
    ∃ outcome appended, Parses file texts outcome appended := by
  -- The lines before the first malformed one, and what is left.
  let fine : List Char → Bool := fun text => Line.read text ≠ .malformed
  have front : ∀ text ∈ texts.takeWhile fine, Line.read text ≠ .malformed := fun text mem => by
    simpa [fine] using List.mem_takeWhile_imp mem
  cases split : texts.dropWhile fine with
  | nil =>
    have all : ∀ text ∈ texts, Line.read text ≠ .malformed := by
      simpa [fine] using List.dropWhile_eq_nil_iff.mp split
    exact ⟨_, _, .whole (reads_map_read all)⟩
  | cons bad rest =>
    have malformed : ¬ Line.Readable bad := by
      have := List.head?_dropWhile_not fine texts
      rw [split] at this
      simpa [fine, Line.readable_iff] using this
    have whole : texts = texts.takeWhile fine ++ bad :: rest := by
      rw [← split, List.takeWhile_append_dropWhile]
    exact ⟨_, _, .stopped whole (reads_map_read front) malformed⟩

theorem readable_of_mem {lines : List Line} (good : List.Forall₂ Line.Reads texts lines)
    {text : List Char} (mem : text ∈ texts) : Line.Readable text := by
  induction good with
  | nil => cases mem
  | cons reads _ ih =>
    obtain rfl | mem := List.mem_cons.mp mem
    · exact ⟨_, reads⟩
    · exact ih mem

theorem Parses.eq_ok_iff (parses : Parses file texts outcome appended) :
    outcome = .ok () ↔ ∀ text ∈ texts, Line.Readable text := by
  cases parses with
  | whole good => exact iff_of_true rfl fun text => readable_of_mem good
  | stopped split good malformed =>
    refine iff_of_false nofun fun all => malformed (all _ ?_)
    rw [split]
    exact List.mem_append_right _ List.mem_cons_self

variable {text : String}

theorem Parses.add_ofString (parses : Parses file (linesOf '\n' text.toList) outcome appended)
    (reader : Reader) :
    reader.add (.ofString text) file = (outcome, ⟨reader.sections ++ appended⟩) := by
  rw [add, Source.ofString, parses.readLines_eq]

/-- The lines of a text alone say how far it is read and which sections it makes. -/
theorem add_ofString_iff {reader after : Reader} :
    reader.add (.ofString text) file = (outcome, after) ↔
      ∃ appended, Parses file (linesOf '\n' text.toList) outcome appended ∧
        after = ⟨reader.sections ++ appended⟩ := by
  constructor
  · intro added
    obtain ⟨_, appended, parses⟩ := exists_parses file (linesOf '\n' text.toList)
    rw [parses.add_ofString] at added
    obtain ⟨rfl, rfl⟩ := Prod.mk.inj added
    exact ⟨appended, parses, rfl⟩
  · rintro ⟨appended, parses, rfl⟩
    exact parses.add_ofString reader

/-- **The grammar.**  A text is added without an error exactly if all its lines are of one
of the forms.  In any case a reader keeps its sections, and the lines of the text determine
the outcome, the number in the error and the sections that are appended. -/
theorem add_ofBytes (reader : Reader) (text : String) (file : Option String) :
    ((reader.add (.ofBytes text.toUTF8) file).1 = .ok () ↔
        ∀ line ∈ linesOf '\n' text.toList, Line.Readable line) ∧
      ∀ outcome after, reader.add (.ofBytes text.toUTF8) file = (outcome, after) ↔
        ∃ appended, Parses file (linesOf '\n' text.toList) outcome appended ∧
          after = ⟨reader.sections ++ appended⟩ := by
  rw [Source.ofBytes_toUTF8]
  obtain ⟨outcome, appended, parses⟩ := exists_parses file (linesOf '\n' text.toList)
  refine ⟨?_, fun _ _ => add_ofString_iff⟩
  rw [parses.add_ofString]
  exact parses.eq_ok_iff

example :
    empty.add (.ofString "[Good]\nkey = 1\n[Next]\nkey value\n") (some "a.conf") =
      (.error (.malformedLine "a.conf" 4), ⟨[⟨"Good", some "a.conf", [("key", "1")]⟩]⟩) := by
  decide

end Reader

end DetectorSim.Config
