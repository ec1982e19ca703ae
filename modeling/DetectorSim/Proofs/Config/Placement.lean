import Mathlib.Data.List.Basic
import DetectorSim.Proofs.Config.Assignment

/-!
# Where a setting ends up

A line of a text belongs to the section that is open when it is read.  That section has the
name of the last header, stands behind those that were closed before, and gives a key the
value that the last of its lines has set.
-/

set_option autoImplicit false

namespace DetectorSim.Config

open DetectorSim.Text

/-! ## Sections of appended lines -/

/-- Sections have the names of their headers. -/
theorem map_name_sectionsFrom (file : Option String) (current : Section) (lines : List Line) :
    (sectionsFrom file current lines).map Section.name
      = current.name :: lines.filterMap Line.name? := by
  induction lines generalizing current with
  | nil => rfl
  | cons line rest ih =>
    cases line with
    | header name => rw [sectionsFrom_header, List.map_cons, ih]; rfl
    | blank | malformed => rw [sectionsFrom_cons (by rfl), ih]; rfl
    | entry => rw [sectionsFrom_cons (by rfl), ih]; rfl

/-- The lines up to the next header extend a section. -/
theorem exists_sectionsFrom_eq_cons (file : Option String) (current : Section)
    (lines : List Line) :
    ∃ rest, sectionsFrom file current lines
      = current.extend (lines.takeWhile fun line => line.name? = none) :: rest := by
  induction lines generalizing current with
  | nil => exact ⟨[], rfl⟩
  | cons line more ih =>
    cases inside : line.name? with
    | none =>
      obtain ⟨rest, split⟩ := ih (current.extend [line])
      refine ⟨rest, ?_⟩
      rw [sectionsFrom_cons inside, split, List.takeWhile_cons_of_pos (by simpa using inside),
        ← current.extend_cons]
    | some name =>
      cases line with
      | header => exact ⟨_, sectionsFrom_header _ _ _⟩
      | blank | malformed | entry => cases inside

/-- Further lines go on with the last section. -/
theorem sectionsFrom_append {file : Option String} {current last : Section}
    {front : List Section} {first : List Line}
    (split : sectionsFrom file current first = front ++ [last]) (rest : List Line) :
    sectionsFrom file current (first ++ rest) = front ++ sectionsFrom file last rest := by
  induction first generalizing current front with
  | nil =>
    have single : [] ++ [current] = front ++ [last] := split
    obtain ⟨rfl, rfl⟩ := List.append_singleton_inj.mp single
    rfl
  | cons line more ih =>
    cases inside : line.name? with
    | none =>
      rw [sectionsFrom_cons inside] at split
      rw [List.cons_append, sectionsFrom_cons inside, ih split]
    | some name =>
      cases line with
      | header name =>
        rw [sectionsFrom_header] at split
        rw [List.cons_append, sectionsFrom_header]
        obtain ⟨others, next⟩ := exists_sectionsFrom_eq_cons file (Section.empty name file) more
        cases front with
        | nil =>
          rw [next] at split
          cases split
        | cons opened closed =>
          obtain ⟨rfl, later⟩ := List.cons.inj split
          rw [ih later, List.cons_append]
      | blank | malformed | entry => cases inside

theorem sectionsOf_ne_nil (file : Option String) (lines : List Line) :
    sectionsOf file lines ≠ [] := by
  obtain ⟨rest, split⟩ := exists_sectionsFrom_eq_cons file (Section.empty "" file) lines
  rw [sectionsOf, split]
  exact List.cons_ne_nil _ _

/-- The name of the section that is open after some lines. -/
def openName (lines : List (List Char)) : String :=
  ((lines.map Line.read).filterMap Line.name?).getLastD ""

/-- The section that is open after some lines has the name of their last header. -/
theorem name_eq_openName {file : Option String} {earlier : List (List Char)}
    {closed : List Section} {current : Section}
    (split : sectionsOf file (earlier.map Line.read) = closed ++ [current]) :
    current.name = openName earlier := by
  have names := map_name_sectionsFrom file (Section.empty "" file) (earlier.map Line.read)
  rw [← sectionsOf, split, List.map_append] at names
  have last := congrArg List.getLast? names
  rw [List.map_singleton, List.getLast?_concat, List.getLast?_cons] at last
  rw [openName, List.getLastD_eq_getLast?]
  exact Option.some.inj last

/-- A section with a key is kept behind those that were closed before it. -/
theorem exists_closedAmong_append {s : Section} (filled : s.entries ≠ [])
    (closed others : List Section) (current : Section) :
    ∃ rest, closedAmong (closed ++ s :: others) ++ (closed ++ s :: others).getLast?.toList
      = closedAmong (closed ++ [current]) ++ s :: rest := by
  rw [closedAmong, closedAmong, List.dropLast_concat]
  obtain rfl | ⟨more, last, rfl⟩ := others.eq_nil_or_concat'
  · exact ⟨[], by rw [List.dropLast_concat, List.getLast?_concat]; rfl⟩
  · refine ⟨more.filter (fun s => s.name ≠ "" ∨ s.entries ≠ []) ++ [last], ?_⟩
    rw [← List.cons_append, ← List.append_assoc, List.dropLast_concat, List.getLast?_concat,
      List.filter_append, List.filter_cons_of_pos (by simp [filled]), List.append_assoc]
    rfl

/-! ## The last setting of a key -/

theorem Line.setting?_eq_some_iff {line : Line} {setting : String × String} :
    line.setting? = some setting ↔ line = .entry setting.1 setting.2 := by
  cases line <;> simp [Line.setting?, Prod.ext_iff]

/-- A text of lines that can be read, one of which sets a key for the last time in its
section. -/
structure LastSetIn (text : String) (key : String) (earlier : List (List Char))
    (line : List Char) (later : List (List Char)) : Prop where
  split : linesOf '\n' text.toList = earlier ++ line :: later
  readable : ∀ other ∈ earlier ++ later, Line.Readable other
  last : ∀ other ∈ later.takeWhile (fun other => (Line.read other).name? = none),
    ∀ value, Line.read other ≠ .entry key value

namespace LastSetIn

variable {text key value : String} {earlier later : List (List Char)} {line : List Char}

theorem read_ne_malformed (set : LastSetIn text key earlier line later)
    (read : Line.read line = .entry key value) :
    ∀ other ∈ linesOf '\n' text.toList, Line.read other ≠ .malformed := by
  intro other mem
  rw [set.split] at mem
  obtain mem | mem := List.mem_append.mp mem
  · exact Line.readable_iff.mp (set.readable other (List.mem_append_left _ mem))
  · obtain rfl | mem := List.mem_cons.mp mem
    · rw [read]
      nofun
    · exact Line.readable_iff.mp (set.readable other (List.mem_append_right _ mem))

/-- The lines up to the next header do not set the key again. -/
theorem text?_extend (set : LastSetIn text key earlier line later) (current : Section)
    (value : String) :
    ((current.set key value).extend
      ((later.map Line.read).takeWhile fun line => line.name? = none)).text? key
        = some value := by
  have fresh : key ∉ (((later.map Line.read).takeWhile fun line => line.name? = none).filterMap
      Line.setting?).map Prod.fst := by
    intro mem
    obtain ⟨⟨_, other⟩, among, rfl⟩ := List.mem_map.mp mem
    obtain ⟨said, held, sets⟩ := List.mem_filterMap.mp among
    rw [List.takeWhile_map] at held
    obtain ⟨text, standing, rfl⟩ := List.mem_map.mp held
    exact set.last text standing other (Line.setting?_eq_some_iff.mp sets)
  have unset : Section.lookup key (((later.map Line.read).takeWhile fun line =>
      line.name? = none).filterMap Line.setting?).reverse = none :=
    Section.lookup_eq_none_iff.mpr (by rwa [List.map_reverse, List.mem_reverse])
  rw [Section.extend, Section.text?_setAll, unset, Option.none_or, Section.text?_set, if_pos rfl]

/-- The last setting of a key gives its value in the section that it stands in, which comes
after all that were closed before. -/
theorem exists_text? (set : LastSetIn text key earlier line later)
    (read : Line.read line = .entry key value) (reader : Reader) (file : Option String) :
    ∃ s rest, reader.add (.ofBytes text.toUTF8) file = (.ok (), ⟨reader.sections
        ++ (closedAmong (sectionsOf file (earlier.map Line.read)) ++ s :: rest)⟩) ∧
      s.name = openName earlier ∧ s.text? key = some value := by
  have parses : Reader.Parses file _ _ _ := .whole (reads_map_read (set.read_ne_malformed read))
  -- The section that is open before the line, and what it has become at the next header.
  obtain none | ⟨closed, current, before⟩ :=
    (sectionsOf file (earlier.map Line.read)).eq_nil_or_concat'
  · exact absurd none (sectionsOf_ne_nil file _)
  have value_eq := set.text?_extend current value
  obtain ⟨others, after⟩ := exists_sectionsFrom_eq_cons file (current.set key value)
    (later.map Line.read)
  generalize kept : (current.set key value).extend
    ((later.map Line.read).takeWhile fun line => line.name? = none) = s at after value_eq
  have whole : sectionsOf file ((linesOf '\n' text.toList).map Line.read)
      = closed ++ s :: others := by
    rw [set.split, List.map_append, List.map_cons, read, sectionsOf, sectionsFrom_append before,
      sectionsFrom_cons (by rfl), ← after]
    rfl
  have filled : s.entries ≠ [] := by
    intro none
    rw [Section.text?, none] at value_eq
    cases value_eq
  obtain ⟨rest, appended⟩ := exists_closedAmong_append filled closed others current
  refine ⟨s, rest, ?_, ?_, value_eq⟩
  · rw [Source.ofBytes_toUTF8, parses.add_ofString reader, whole, appended, before]
  · rw [← kept, Section.extend, Section.name_setAll, ← name_eq_openName before]
    rfl

end LastSetIn

end DetectorSim.Config
