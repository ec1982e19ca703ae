import Mathlib.Data.List.Basic
import Mathlib.Data.List.Forall2
import Mathlib.Data.List.Nodup
import DetectorSim.Proofs.Config.Assignment

/-!
# Rendering a configuration

Sections are rendered as a header and one line for each key.  Reading a rendering gives
the sections back exactly if they are canonical, and what is read from any text is
canonical: the two halves of the proof meet in `Canonical`.  What is read from a text can
therefore be rendered and read again without a loss.
-/

set_option autoImplicit false

namespace DetectorSim.Config

open DetectorSim.Text

/-! ## Canonical sections -/

/-- A key starts with a letter and consists of the characters of names. -/
structure IsKey (key : String) : Prop where
  letter : ∃ c ∈ key.toList.head?, c.isAlpha
  word : ∀ c ∈ key.toList, Line.isNameChar c

namespace IsKey

variable {key : String}

theorem ne_nil (isKey : IsKey key) : key.toList ≠ [] := by
  obtain ⟨⟨c, head, -⟩, -⟩ := isKey
  rintro none
  rw [none] at head
  cases head

theorem trimmed (isKey : IsKey key) : Trimmed key.toList :=
  have solid : ∀ c ∈ key.toList, isBlank c = false := fun c mem =>
    Line.isBlank_of_isNameChar (isKey.word c mem)
  ⟨fun c mem => solid c (List.mem_of_mem_head? mem),
    fun c mem => solid c (List.mem_of_mem_getLast? mem)⟩

end IsKey

/-- A value is something on one line, without blanks at its ends and without comment. -/
structure IsValue (value : String) : Prop where
  filled : value ≠ ""
  trimmed : Trimmed value.toList
  oneLine : '\n' ∉ value.toList
  bare : Bare value.toList

/-- A section as a text can give it. -/
structure Section.Sound (s : Section) : Prop where
  name : ∀ c ∈ s.name.toList, Line.isNameChar c
  distinct : s.keys.Nodup
  entries : ∀ entry ∈ s.entries, IsKey entry.1 ∧ IsValue entry.2

/-- Sections as a text can give them. -/
structure Canonical (sections : List Section) : Prop where
  filled : sections ≠ []
  kept : ∀ s ∈ sections.dropLast, s.name ≠ "" ∨ s.entries ≠ []
  sound : ∀ s ∈ sections, s.Sound

namespace Section

/-- The lines that make a section. -/
def lines (s : Section) : List Line :=
  .header s.name :: s.entries.map fun entry => .entry entry.1 entry.2

/-- The text of these lines. -/
def renderedLines (s : Section) : List String :=
  ("[" ++ s.name ++ "]") :: s.entries.map fun entry => entry.1 ++ " = " ++ entry.2

/-- A section that belongs to no file. -/
def withoutFile (s : Section) : Section :=
  { s with file := none }

end Section

/-- The text of sections. -/
def render (sections : List Section) : String :=
  String.join ((sections.flatMap Section.renderedLines).map (· ++ "\n"))

/-! ## What is read is canonical -/

namespace Line

/-- What a line can add to a section. -/
def Sound : Line → Prop
  | .header name => ∀ c ∈ name.toList, isNameChar c
  | .entry key value => IsKey key ∧ IsValue value
  | _ => True

/-- Trimming does not take the letter that a key starts with. -/
theorem isKey_of_trims {before key : List Char} (letter : ∃ c ∈ before.head?, c.isAlpha)
    (outer : Trims before key) (word : ∀ c ∈ key, isNameChar c) : IsKey (String.ofList key) := by
  obtain ⟨⟨first, last, blanks, blanksLast, rfl⟩, -⟩ := outer
  obtain ⟨c, start, alpha⟩ := letter
  have solid : isBlank c = false :=
    isBlank_of_isNameChar (by simp [isNameChar, Char.isAlphanum, alpha])
  have letter : ∃ c ∈ key.head?, c.isAlpha := by
    cases first with
    | cons d rest =>
      obtain rfl := Option.some.inj start
      exact absurd (blanks d List.mem_cons_self) (by simp [solid])
    | nil =>
      cases key with
      | cons d rest => exact ⟨c, start, alpha⟩
      | nil => exact absurd (blanksLast c (List.mem_of_mem_head? start)) (by simp [solid])
  exact ⟨by rwa [String.toList_ofList], by rwa [String.toList_ofList]⟩

theorem isValue_of_trims {text uncut value : List Char} (cut : Uncommented text uncut)
    (inner : Trims uncut value) (filled : value ≠ []) (clean : '\n' ∉ text) :
    IsValue (String.ofList value) := by
  obtain ⟨⟨before, after, blanks, -, rfl⟩, trimmed⟩ := inner
  refine ⟨fun same => filled ?_, ?_, ?_, ?_⟩
  · rw [← String.toList_ofList (l := value), same, String.toList_empty]
  · rwa [String.toList_ofList]
  · rw [String.toList_ofList]
    intro mem
    have kept : '\n' ∈ before ++ value ++ after :=
      List.mem_append_left _ (List.mem_append_right _ mem)
    obtain rfl | ⟨comment, rfl, -⟩ := cut.split
    · exact clean kept
    · exact clean (List.mem_append_left _ kept)
  · rw [String.toList_ofList]
    exact cut.bare.of_append blanks

theorem Reads.sound {text : List Char} {line : Line} (reads : Reads text line)
    (clean : '\n' ∉ text) : line.Sound := by
  obtain ⟨core, ⟨⟨before, after, -, -, rfl⟩, -⟩, means⟩ := reads
  have clean : '\n' ∉ core := fun mem =>
    clean (List.mem_append_left _ (List.mem_append_right _ mem))
  cases means with
  | empty => trivial
  | comment => trivial
  | header word =>
    intro c mem
    exact word c (by rwa [String.toList_ofList] at mem)
  | @entry _ after _ _ _ letter first outer word cut inner filled =>
    have clean : '\n' ∉ after := fun mem =>
      clean (List.mem_append_right _ (List.mem_cons_of_mem _ mem))
    exact ⟨isKey_of_trims letter outer word, isValue_of_trims cut inner filled clean⟩

end Line

namespace Section

theorem Sound.empty {name : String} (word : ∀ c ∈ name.toList, Line.isNameChar c)
    (file : Option String) : (Section.empty name file).Sound :=
  ⟨word, List.nodup_nil, nofun⟩

theorem Sound.set {s : Section} (sound : s.Sound) {key value : String} (isKey : IsKey key)
    (isValue : IsValue value) : (s.set key value).Sound := by
  refine ⟨sound.name, ?_, fun entry mem => ?_⟩
  · rw [keys, Section.set, keys_setIn]
    split
    · exact sound.distinct
    · next fresh =>
      rw [← List.concat_eq_append]
      exact List.Nodup.concat fresh sound.distinct
  · obtain rfl | mem := mem_setIn mem
    · exact ⟨isKey, isValue⟩
    · exact sound.entries entry mem

end Section

variable {file : Option String}

theorem sound_of_mem_sectionsFrom {current : Section} {lines : List Line}
    (sound : current.Sound) (place : current.file = file) (all : ∀ line ∈ lines, line.Sound)
    {s : Section} (mem : s ∈ sectionsFrom file current lines) : s.Sound ∧ s.file = file := by
  induction lines generalizing current with
  | nil =>
    obtain rfl := List.mem_singleton.mp mem
    exact ⟨sound, place⟩
  | cons line rest ih =>
    obtain ⟨good, others⟩ := List.forall_mem_cons.mp all
    cases line with
    | blank | malformed =>
      rw [sectionsFrom_cons (by rfl)] at mem
      exact ih sound place others mem
    | entry key value =>
      rw [sectionsFrom_cons (by rfl)] at mem
      exact ih (sound.set good.1 good.2) place others mem
    | header name =>
      rw [sectionsFrom_header] at mem
      obtain rfl | mem := List.mem_cons.mp mem
      · exact ⟨sound, place⟩
      · exact ih (.empty good file) rfl others mem

theorem Line.sound_of_mem {texts : List (List Char)} {lines : List Line}
    (good : List.Forall₂ Line.Reads texts lines) (clean : ∀ text ∈ texts, '\n' ∉ text) :
    ∀ line ∈ lines, line.Sound := by
  induction good with
  | nil => nofun
  | cons reads _ ih =>
    obtain ⟨first, others⟩ := List.forall_mem_cons.mp clean
    exact List.forall_mem_cons.mpr ⟨reads.sound first, ih others⟩

/-- The sections that are appended for a text are canonical. -/
theorem Reader.Parses.canonical {texts : List (List Char)} {sections : List Section}
    (parses : Reader.Parses file texts (.ok ()) sections) (clean : ∀ text ∈ texts, '\n' ∉ text) :
    Canonical sections ∧ ∀ s ∈ sections, s.file = file := by
  cases parses with
  | @whole lines good =>
    obtain ⟨front, last, split, -⟩ :=
      exists_readLines_append good file 1 (Section.empty "" file)
    have sound : ∀ s ∈ front ++ [last], s.Sound ∧ s.file = file := fun s mem =>
      sound_of_mem_sectionsFrom (.empty (by simp) file) rfl (Line.sound_of_mem good clean)
        (split ▸ mem)
    rw [sectionsOf, split, closedAmong, List.dropLast_concat, List.getLast?_concat,
      Option.toList_some]
    have sound : ∀ s ∈ front.filter (fun s => s.name ≠ "" ∨ s.entries ≠ []) ++ [last],
        s.Sound ∧ s.file = file := fun s mem => by
      obtain mem | mem := List.mem_append.mp mem
      · exact sound s (List.mem_append_left _ (List.mem_filter.mp mem).1)
      · exact sound s (List.mem_append_right _ mem)
    refine ⟨⟨by simp, fun s mem => ?_, fun s mem => (sound s mem).1⟩, fun s mem => (sound s mem).2⟩
    rw [List.dropLast_concat] at mem
    simpa using (List.mem_filter.mp mem).2

/-! ## What is canonical is read -/

theorem toList_render (sections : List Section) :
    (render sections).toList =
      ((sections.flatMap Section.renderedLines).map String.toList).flatMap (· ++ ['\n']) := by
  simp [render, List.flatMap_map]

namespace Line

theorem reads_header {name : String} (word : ∀ c ∈ name.toList, isNameChar c) :
    Reads ("[" ++ name ++ "]").toList (.header name) := by
  have trimmed : Trimmed (['['] ++ name.toList ++ [']']) :=
    (trimmed_singleton (by decide)).enclose (trimmed_singleton (by decide)) nofun nofun _
  have means : Means ('[' :: (name.toList ++ ']' :: ([] ++ [])))
      (.header (String.ofList name.toList)) := .header word (List.forall_mem_nil _) (.inl rfl)
  rw [String.ofList_toList] at means
  rw [String.toList_append, String.toList_append]
  exact ⟨_, trimmed.trims, means⟩

theorem reads_entry {key value : String} (isKey : IsKey key) (isValue : IsValue value) :
    Reads (key ++ " = " ++ value).toList (.entry key value) := by
  have someKey := isKey.ne_nil
  have trimmedKey := isKey.trimmed
  obtain ⟨letter, word⟩ := isKey
  have someValue : value.toList ≠ [] := by simpa using isValue.filled
  have first : '=' ∉ key.toList ++ [' '] := by
    intro mem
    obtain mem | mem := List.mem_append.mp mem
    · exact absurd (word _ mem) (by decide)
    · exact absurd mem (by decide)
  have outer : Trims (key.toList ++ [' ']) key.toList :=
    ⟨⟨[], [' '], nofun, by simp; decide, rfl⟩, trimmedKey⟩
  have cut : Uncommented (' ' :: value.toList) (' ' :: value.toList) :=
    ⟨.inl rfl, isValue.bare.blank_cons (by decide)⟩
  have inner : Trims (' ' :: value.toList) value.toList :=
    ⟨⟨[' '], [], by simp; decide, nofun, by simp⟩, isValue.trimmed⟩
  have start : ∃ c ∈ (key.toList ++ [' ']).head?, c.isAlpha := by
    rwa [List.head?_append_of_ne_nil _ someKey]
  have means := Means.entry start first outer word cut inner someValue
  rw [String.ofList_toList, String.ofList_toList, List.append_assoc] at means
  have trimmed := trimmedKey.enclose isValue.trimmed someKey someValue [' ', '=', ' ']
  rw [List.append_assoc] at trimmed
  rw [String.toList_append, String.toList_append, List.append_assoc]
  exact ⟨_, trimmed.trims, means⟩

end Line

/-- Every line of a rendering is read as what it was written for. -/
theorem Section.Sound.reads {s : Section} (sound : s.Sound) :
    List.Forall₂ Line.Reads (s.renderedLines.map String.toList) s.lines := by
  refine .cons (Line.reads_header sound.name) ?_
  simp only [List.forall₂_map_left_iff, List.forall₂_map_right_iff, List.forall₂_same]
  exact fun entry mem => Line.reads_entry (sound.entries entry mem).1 (sound.entries entry mem).2

theorem Section.Sound.oneLine {s : Section} (sound : s.Sound) {line : String}
    (mem : line ∈ s.renderedLines) : '\n' ∉ line.toList := by
  have lineFeed {text : List Char} (word : ∀ c ∈ text, Line.isNameChar c) : '\n' ∉ text :=
    fun mem => absurd (word _ mem) (by decide)
  obtain rfl | mem := List.mem_cons.mp mem
  · simpa using lineFeed sound.name
  · obtain ⟨entry, held, rfl⟩ := List.mem_map.mp mem
    obtain ⟨isKey, isValue⟩ := sound.entries entry held
    simpa using ⟨lineFeed isKey.word, isValue.oneLine⟩

namespace Section

theorem setIn_of_notMem {key : String} (value : String) {entries : List (String × String)}
    (fresh : key ∉ entries.map Prod.fst) :
    setIn key value entries = entries ++ [(key, value)] := by
  induction entries with
  | nil => rfl
  | cons held rest ih =>
    rw [List.map_cons, List.mem_cons, not_or] at fresh
    rw [setIn, if_neg (Ne.symm fresh.1), ih fresh.2, List.cons_append]

/-- New keys are appended in order. -/
theorem setAll_eq {settings : List (String × String)} {s : Section}
    (distinct : (s.keys ++ settings.map Prod.fst).Nodup) :
    s.setAll settings = { s with entries := s.entries ++ settings } := by
  induction settings generalizing s with
  | nil => rw [List.append_nil]; rfl
  | cons setting rest ih =>
    have fresh : setting.1 ∉ s.keys := fun mem =>
      (List.nodup_append.mp distinct).2.2 _ mem _ List.mem_cons_self rfl
    have added : s.set setting.1 setting.2 = { s with entries := s.entries ++ [setting] } := by
      rw [Section.set, setIn_of_notMem setting.2 fresh]
    calc s.setAll (setting :: rest) = (s.set setting.1 setting.2).setAll rest := rfl
      _ = { s with entries := s.entries ++ [setting] }.setAll rest := by rw [added]
      _ = { s with entries := s.entries ++ [setting] ++ rest } :=
          ih (by simpa [keys] using distinct)
      _ = { s with entries := s.entries ++ setting :: rest } := by simp

end Section

theorem sectionsFrom_entries (current : Section) (entries : List (String × String))
    (rest : List Line) :
    sectionsFrom file current (entries.map (fun entry => .entry entry.1 entry.2) ++ rest) =
      sectionsFrom file (current.setAll entries) rest := by
  induction entries generalizing current with
  | nil => rfl
  | cons entry others ih =>
    rw [List.map_cons, List.cons_append, sectionsFrom_cons (by rfl)]
    exact ih _

theorem sectionsFrom_lines {sections : List Section} (sound : ∀ s ∈ sections, s.Sound)
    (current : Section) :
    sectionsFrom none current (sections.flatMap Section.lines) =
      current :: sections.map Section.withoutFile := by
  induction sections generalizing current with
  | nil => rfl
  | cons s rest ih =>
    obtain ⟨first, others⟩ := List.forall_mem_cons.mp sound
    have opened : (Section.empty s.name none).setAll s.entries = s.withoutFile :=
      Section.setAll_eq (by simpa [Section.keys, Section.empty] using first.distinct)
    rw [List.flatMap_cons, Section.lines, List.cons_append, sectionsFrom_header,
      sectionsFrom_entries, opened, ih others, List.map_cons]

theorem reads_lines {sections : List Section} (sound : ∀ s ∈ sections, s.Sound) :
    List.Forall₂ Line.Reads ((sections.flatMap Section.renderedLines).map String.toList)
      (sections.flatMap Section.lines) := by
  induction sections with
  | nil => exact .nil
  | cons s rest ih =>
    obtain ⟨first, others⟩ := List.forall_mem_cons.mp sound
    rw [List.flatMap_cons, List.map_append, List.flatMap_cons]
    exact List.rel_append first.reads (ih others)

/-- A rendering is read to its end, and the sections that it makes are those that were
rendered. -/
theorem Canonical.parses {sections : List Section} (canonical : Canonical sections) :
    Reader.Parses none (linesOf '\n' (render sections).toList) (.ok ())
      (sections.map Section.withoutFile) := by
  have clean : ∀ line ∈ (sections.flatMap Section.renderedLines).map String.toList,
      '\n' ∉ line := by
    simp only [List.mem_map, List.mem_flatMap]
    rintro _ ⟨line, ⟨s, mem, made⟩, rfl⟩
    exact (canonical.sound s mem).oneLine made
  have appended : closedAmong (sectionsOf none (sections.flatMap Section.lines)) ++
      (sectionsOf none (sections.flatMap Section.lines)).getLast?.toList =
        sections.map Section.withoutFile := by
    rw [sectionsOf, sectionsFrom_lines canonical.sound]
    obtain rfl | ⟨front, last, rfl⟩ := sections.eq_nil_or_concat'
    · exact absurd rfl canonical.filled
    · have kept : ∀ s ∈ front.map Section.withoutFile, decide (s.name ≠ "" ∨ s.entries ≠ []) := by
        simpa [Section.withoutFile] using canonical.kept
      rw [List.map_append, List.map_singleton, ← List.cons_append, closedAmong,
        List.dropLast_concat, List.getLast?_concat, Option.toList_some,
        List.filter_cons_of_neg (by simp [Section.empty]), List.filter_eq_self.mpr kept]
  rw [toList_render, linesOf_flatMap clean, ← appended]
  exact .whole (reads_lines canonical.sound)

/-! ## Both halves -/

theorem map_withoutFile {sections : List Section} (noFile : ∀ s ∈ sections, s.file = none) :
    sections.map Section.withoutFile = sections := by
  refine (List.map_congr_left fun s mem => ?_).trans sections.map_id
  rw [Section.withoutFile, ← noFile s mem]
  rfl

/-- The file of a section does not matter for its rendering. -/
theorem Canonical.of_map_withoutFile {sections : List Section}
    (canonical : Canonical (sections.map Section.withoutFile)) : Canonical sections := by
  refine ⟨?_, fun s mem => canonical.kept s.withoutFile ?_, fun s mem => ?_⟩
  · rintro rfl
    exact canonical.filled rfl
  · rw [← List.map_dropLast]
    exact List.mem_map_of_mem mem
  · obtain ⟨name, distinct, entries⟩ := canonical.sound _ (List.mem_map_of_mem mem)
    exact ⟨name, distinct, entries⟩

namespace Reader

/-- The log does not matter for what is read. -/
theorem fst_ofString (text : String) (journal : Journal) :
    (ofString text journal).1 =
      (Outcome.ofExcept (empty.add (.ofString text) none).1).map fun _ =>
        (empty.add (.ofString text) none).2 := by
  rfl

theorem ofString_eq_ok_iff {text : String} {journal : Journal} {reader : Reader} :
    (ofString text journal).1 = .ok reader ↔
      Parses none (linesOf '\n' text.toList) (.ok ()) reader.sections := by
  have added : (ofString text journal).1 = .ok reader ↔
      empty.add (.ofString text) none = (.ok (), reader) := by
    rw [fst_ofString]
    generalize empty.add (.ofString text) none = result
    obtain ⟨_ | ⟨⟩, after⟩ := result <;> simp [Outcome.ofExcept, Outcome.map]
  rw [added, add_ofString_iff]
  constructor
  · rintro ⟨appended, parses, rfl⟩
    exact parses
  · intro parses
    exact ⟨_, parses, rfl⟩

theorem canonical_of_ofString {text : String} {journal : Journal} {reader : Reader}
    (read : (ofString text journal).1 = .ok reader) :
    Canonical reader.sections ∧ ∀ s ∈ reader.sections, s.file = none :=
  (ofString_eq_ok_iff.mp read).canonical fun _ => notMem_of_mem_linesOf

theorem ofString_render_of_canonical {sections : List Section} (canonical : Canonical sections)
    (journal : Journal) :
    (ofString (render sections) journal).1 = .ok ⟨sections.map Section.withoutFile⟩ :=
  ofString_eq_ok_iff.mpr canonical.parses

/-- **Rendering.**  Exactly the canonical sections are read from their rendering, and
nothing else is read from any text; so a text that is read can be rendered and read
again. -/
theorem ofString_render :
    (∀ sections : List Section,
        (∃ text journal, (ofString text journal).1 = .ok ⟨sections⟩) ↔
          Canonical sections ∧ ∀ s ∈ sections, s.file = none) ∧
      (∀ (sections : List Section) (journal : Journal),
        (ofString (render sections) journal).1 = .ok ⟨sections.map Section.withoutFile⟩ ↔
          Canonical sections) ∧
      ∀ (text : String) (journal later : Journal) (reader : Reader),
        (ofString text journal).1 = .ok reader →
          (ofString (render reader.sections) later).1 = .ok reader := by
  have again {sections : List Section} (canonical : Canonical sections)
      (noFile : ∀ s ∈ sections, s.file = none) (journal : Journal) :
      (ofString (render sections) journal).1 = .ok ⟨sections⟩ := by
    rw [ofString_render_of_canonical canonical, map_withoutFile noFile]
  refine ⟨fun sections => ⟨?_, ?_⟩, fun sections journal => ⟨?_, ?_⟩, ?_⟩
  · rintro ⟨text, journal, read⟩
    exact canonical_of_ofString read
  · rintro ⟨canonical, noFile⟩
    exact ⟨render sections, default, again canonical noFile default⟩
  · exact fun read => (canonical_of_ofString read).1.of_map_withoutFile
  · exact fun canonical => ofString_render_of_canonical canonical journal
  · intro text journal later reader read
    obtain ⟨canonical, noFile⟩ := canonical_of_ofString read
    exact again canonical noFile later

/-- A text with a comment, a quoted sign and a key that is set twice, rendered and read
again. -/
theorem ofString_render_quoted :
    (ofString "k = 1\nk = 'a # b' # c\n[Foo]\n" default).1 =
        .ok ⟨[⟨"", none, [("k", "'a # b'")]⟩, ⟨"Foo", none, []⟩]⟩ ∧
      (ofString (render [⟨"", none, [("k", "'a # b'")]⟩, ⟨"Foo", none, []⟩]) default).1 =
        .ok ⟨[⟨"", none, [("k", "'a # b'")]⟩, ⟨"Foo", none, []⟩]⟩ :=
  have read : (ofString "k = 1\nk = 'a # b' # c\n[Foo]\n" default).1 =
      .ok ⟨[⟨"", none, [("k", "'a # b'")]⟩, ⟨"Foo", none, []⟩]⟩ := by decide
  ⟨read, ofString_render.2.2 _ _ _ _ read⟩

end Reader

end DetectorSim.Config
