import DetectorSim.Proofs.Config.Header
import DetectorSim.Proofs.Config.Placement

/-!
# Paths in the header

A relative path in a section starts at the directory of the file that the section is from.
The header is made of sections that may come from several files, but it belongs to one of
them: the one that was read first, the main file.  A relative path in it starts at the
directory of the main file, wherever the path stands.
-/

set_option autoImplicit false

namespace DetectorSim

/-! ## Directories -/

namespace Path

/-- The directory that relative paths in a file start at.  The empty one stands for no
directory. -/
def directory (file : Option String) : String :=
  (file.bind parent?).getD ""

variable {path home other : String}

/-- A directory without a slash at its end, the root apart. -/
def Plain (directory : String) : Prop :=
  directory = "/" ∨ directory.toList.getLast? ≠ some '/'

theorem head?_trimBack (path : List Char) :
    trimBack path = ['/'] ∨ (trimBack path).head? ≠ some '/' := by
  fun_induction trimBack path with
  | case1 => exact .inl rfl
  | case2 rest _ ih => exact ih
  | case3 rest ih => exact ih
  | case4 path single slash _ =>
    refine .inr fun first => ?_
    obtain ⟨rest, rfl⟩ := List.head?_eq_some_iff.mp first
    exact slash rest rfl

theorem plain_of_parent? (found : parent? path = some other) : Plain other := by
  unfold parent? at found
  split at found
  · cases found
  · cases found
  · obtain rfl := Option.some.inj found
    rw [Plain, String.toList_ofList, List.getLast?_reverse]
    rcases head?_trimBack ((trimBack path.toList.reverse).dropWhile (· != '/')) with root | free
    · exact .inl (by rw [root]; rfl)
    · exact .inr free

theorem plain_directory (file : Option String) : Plain (directory file) := by
  unfold directory
  cases found : file.bind parent? with
  | none => exact .inr nofun
  | some other =>
    obtain ⟨path, -, parent⟩ := Option.bind_eq_some_iff.mp found
    exact plain_of_parent? parent

theorem resolve_eq (file : Option String) (path : String) :
    resolve file path = join (directory file) path := by
  unfold resolve directory
  split
  · next absolute => rw [join, if_pos absolute]
  · next relative =>
    cases file.bind parent? with
    | none => rw [join, if_neg relative]; rfl
    | some directory => rfl

/-- What stands before a relative path that is taken from a directory. -/
def lead (directory : String) : List Char :=
  match directory.toList.getLast? with
  | none => []
  | some '/' => directory.toList
  | some _ => directory.toList ++ ['/']

theorem toList_join (relative : ¬ isAbsolute path = true) (directory : String) :
    (join directory path).toList = lead directory ++ path.toList := by
  rw [join, if_neg relative, lead]
  split <;> simp_all

/-- A directory can be told from what it puts before a path. -/
theorem toList_eq_of_lead (plain : Plain home) :
    home.toList
      = if lead home = ['/'] then ['/'] else (lead home).dropLast := by
  unfold lead
  split
  · next nowhere =>
    rw [List.getLast?_eq_none_iff.mp nowhere]
    rfl
  · next slash =>
    rcases plain with rfl | free
    · rfl
    · exact absurd slash free
  · next last =>
    have filled : home.toList ≠ [] := fun nowhere => by simp [nowhere] at last
    rw [if_neg (by simpa using filled), List.dropLast_concat]

theorem lead_injective (plain : Plain home) (plain' : Plain other)
    (same : lead home = lead other) : home = other := by
  rw [← String.toList_inj, toList_eq_of_lead plain, same, ← toList_eq_of_lead plain']

/-- Two directories give a path the same place if and only if they are the same or it does
not depend on them. -/
theorem join_eq_iff (plain : Plain home) (plain' : Plain other) :
    join home path = join other path ↔ isAbsolute path = true ∨ home = other := by
  by_cases absolute : isAbsolute path = true
  · simp [join, absolute]
  · rw [or_iff_right absolute]
    refine ⟨fun same => lead_injective plain plain' ?_, fun same => by rw [same]⟩
    have lists := congrArg String.toList same
    rw [toList_join absolute, toList_join absolute] at lists
    exact List.append_cancel_right lists

end Path

namespace Config

/-! ## Sections and their files -/

namespace Section

theorem file_setAll (s : Section) (settings : List (String × String)) :
    (s.setAll settings).file = s.file := by
  induction settings generalizing s with
  | nil => rfl
  | cons setting rest ih => exact ih (s.set setting.1 setting.2)

theorem file_merge (s other : Section) : (s.merge other).file = s.file := by
  unfold merge
  induction other.entries generalizing s with
  | nil => rfl
  | cons entry rest ih =>
    rw [List.foldl_cons, ih, setDefault]
    split <;> rfl

theorem file_foldl_merge (sections : List Section) (s : Section) :
    (sections.foldl merge s).file = s.file := by
  induction sections generalizing s with
  | nil => rfl
  | cons other rest ih => rw [List.foldl_cons, ih, file_merge]

end Section

theorem Block.file_toSection (file : Option String) (block : Block) :
    (block.toSection file).file = file :=
  Section.file_setAll _ block.settings

/-- The readers that sources were added to, each of them from a file and to its end. -/
inductive Assembled : List (Source × Option String) → Reader → Prop
  | nothing : Assembled [] .empty
  | add {sources : List (Source × Option String)} {reader after : Reader} {source : Source}
      {file : Option String} (earlier : Assembled sources reader)
      (added : reader.add source file = (.ok (), after)) :
      Assembled (sources ++ [(source, file)]) after

/-- The file of the first source. -/
def mainFile (sources : List (Source × Option String)) : Option String :=
  sources.head?.bind Prod.snd

variable {sources : List (Source × Option String)} {reader : Reader} {key value : String}
  {s : Section}

/-- The sections that a source appends are those of its blocks, in part. -/
theorem Reader.exists_appended {after : Reader} {source : Source} {file : Option String}
    (added : reader.add source file = (.ok (), after)) :
    ∃ appended, after.sections = reader.sections ++ appended ∧ appended ≠ [] ∧
      ∀ s ∈ appended, ∃ block ∈ blocksOf source.meanings, s = block.toSection file := by
  refine ⟨_, Reader.sections_of_add added, ?_, fun s among => ?_⟩
  · obtain ⟨last, found⟩ := Option.ne_none_iff_exists'.mp
      (mt List.getLast?_eq_none_iff.mp (sectionsOf_ne_nil file source.meanings))
    simp [found]
  · have inside : s ∈ sectionsOf file source.meanings := by
      rcases List.mem_append.mp among with closed | last
      · exact List.dropLast_subset _ (List.mem_filter.mp closed).1
      · exact List.mem_of_getLast? (Option.mem_toList.mp last)
    rw [sectionsOf_eq_map] at inside
    obtain ⟨block, there, rfl⟩ := List.mem_map.mp inside
    exact ⟨block, there, rfl⟩

namespace Assembled

/-- The first section of all is from the main file. -/
theorem head?_sections (assembled : Assembled sources reader) :
    reader.sections.head?.map Section.file = sources.head?.map Prod.snd := by
  induction assembled with
  | nothing => rfl
  | @add sources reader after source file earlier added ih =>
    obtain ⟨appended, sections_eq, filled, written⟩ := Reader.exists_appended added
    obtain ⟨first, rest, rfl⟩ := List.exists_cons_of_ne_nil filled
    obtain ⟨block, -, rfl⟩ := written first List.mem_cons_self
    rw [sections_eq, List.head?_append, Option.map_or, ih, List.head?_append, Option.map_or,
      List.head?_cons, Option.map_some, block.file_toSection]
    rfl

/-- Every section stands in one of the sources, and is from its file. -/
theorem exists_block (assembled : Assembled sources reader) (among : s ∈ reader.sections) :
    ∃ source, (source, s.file) ∈ sources ∧
      ∃ block ∈ blocksOf source.meanings, s = block.toSection s.file := by
  induction assembled with
  | nothing => cases among
  | @add sources reader after source file earlier added ih =>
    obtain ⟨appended, sections_eq, -, written⟩ := Reader.exists_appended added
    rw [sections_eq] at among
    rcases List.mem_append.mp among with before | new
    · obtain ⟨source', listed, stands⟩ := ih before
      exact ⟨source', List.mem_append_left _ listed, stands⟩
    · obtain ⟨block, there, rfl⟩ := written s new
      rw [block.file_toSection]
      exact ⟨source, List.mem_append_right _ (List.mem_singleton_self _), block, there, rfl⟩

end Assembled

/-! ## Paths -/

/-- A section without a name supplies the value of a key of the header: it is the first of
them that has the key.  It stands in one of the sources, and is from its file. -/
structure Supplies (sources : List (Source × Option String)) (reader : Reader)
    (key value : String) (s : Section) : Prop where
  first : ∃ before after, reader.headers = before ++ s :: after ∧
    ∀ other ∈ before, other.text? key = none
  text_eq : s.text? key = some value
  stands : ∃ source, (source, s.file) ∈ sources ∧
    ∃ block ∈ blocksOf source.meanings, s = block.toSection s.file

/-- What the value of a key says as a text. -/
def unquoted (value : String) : String :=
  String.ofList (Text.unquote value.toList)

/-- What a path is in the header, and what it is where it stands. -/
structure Resolves (sources : List (Source × Option String)) (reader : Reader)
    (key value : String) (s : Section) : Prop where
  text_eq : reader.header.text? key = some value
  header_eq : reader.header.getPath key
    = .ok (Path.resolve (mainFile sources) (unquoted value))
  section_eq : s.getPath key = .ok (Path.resolve s.file (unquoted value))
  /-- It is the same if it is absolute or stands in a file that shares its directory with the
  main file, and only then. -/
  same_iff : reader.header.getPath key = s.getPath key ↔
    Path.isAbsolute (unquoted value) = true ∨
      Path.directory (mainFile sources) = Path.directory s.file

theorem Section.getPath_eq (held : s.text? key = some value) :
    s.getPath key = .ok (Path.resolve s.file (unquoted value)) := by
  rw [getPath, get, text, held]
  rfl

theorem Reader.text?_header (reader : Reader) (key : String) :
    reader.header.text? key = reader.headers.findSome? fun s => s.text? key := by
  rw [header, Section.text?_foldl_merge]
  exact Option.none_or

namespace Assembled

theorem file_header (assembled : Assembled sources reader) :
    reader.header.file = mainFile sources := by
  rw [Reader.header, Section.file_foldl_merge, mainFile, Section.empty]
  have same := congrArg (fun file => file.bind id) assembled.head?_sections
  simp only [Option.bind_map] at same
  exact same

/-- Every key of the header has a section that supplies its value. -/
theorem supplies_iff (assembled : Assembled sources reader) :
    reader.header.text? key = some value ↔ ∃ s, Supplies sources reader key value s := by
  rw [Reader.text?_header, List.findSome?_eq_some_iff]
  constructor
  · rintro ⟨before, s, after, split, held, unset⟩
    have among : s ∈ reader.headers := split ▸ List.mem_append_right _ List.mem_cons_self
    exact ⟨s, ⟨before, after, split, unset⟩, held,
      assembled.exists_block (List.mem_filter.mp among).1⟩
  · rintro ⟨s, ⟨before, after, split, unset⟩, held, -⟩
    exact ⟨before, s, after, split, held, unset⟩

/-- **Paths in the header.**  Every key of the header has a section without a name that
supplies its value.  As a path the value starts at the directory of the main file in the
header, and at the directory of the file where it stands in that section. -/
theorem resolved_from_mainFile (assembled : Assembled sources reader) :
    (∀ key value, reader.header.text? key = some value ↔
      ∃ s, Supplies sources reader key value s) ∧
    ∀ key value s, Supplies sources reader key value s → Resolves sources reader key value s := by
  refine ⟨fun key value => assembled.supplies_iff, fun key value s supplies => ?_⟩
  have held := assembled.supplies_iff.mpr ⟨s, supplies⟩
  have header_eq := Section.getPath_eq held
  have section_eq := Section.getPath_eq supplies.text_eq
  rw [assembled.file_header] at header_eq
  refine ⟨held, header_eq, section_eq, ?_⟩
  rw [header_eq, section_eq, Except.ok.injEq, Path.resolve_eq, Path.resolve_eq,
    Path.join_eq_iff (Path.plain_directory _) (Path.plain_directory _)]

/-- Two sources; the second one has a path that is relative to its file. -/
def scatteredSources : List (Source × Option String) :=
  [(.ofString "[Tracker]\nlayers = 4\n", some "main/main.conf"),
    (.ofString "detectors_file = \"detectors.conf\"\n", some "setup/header.conf")]

/-- The section of the path. -/
def scatteredSection : Section :=
  ⟨"", some "setup/header.conf", [("detectors_file", "\"detectors.conf\"")]⟩

/-- What is read from both. -/
def scattered : Reader :=
  ⟨[⟨"Tracker", some "main/main.conf", [("layers", "4")]⟩, scatteredSection]⟩

theorem assembled_scattered : Assembled scatteredSources scattered :=
  have first : Reader.empty.add (.ofString "[Tracker]\nlayers = 4\n") (some "main/main.conf")
      = (.ok (), ⟨[⟨"Tracker", some "main/main.conf", [("layers", "4")]⟩]⟩) := by decide
  have second : Reader.add ⟨[⟨"Tracker", some "main/main.conf", [("layers", "4")]⟩]⟩
      (.ofString "detectors_file = \"detectors.conf\"\n") (some "setup/header.conf")
        = (.ok (), scattered) := by decide
  (Assembled.nothing.add first).add second

theorem supplies_scattered : Supplies scatteredSources scattered "detectors_file"
    "\"detectors.conf\"" scatteredSection :=
  ⟨⟨[], [], by decide, nofun⟩, by decide, assembled_scattered.exists_block (by decide)⟩

theorem getPath_header_scattered :
    scattered.header.getPath "detectors_file" = .ok "main/detectors.conf" := by
  decide +kernel

theorem getPath_scatteredSection :
    scatteredSection.getPath "detectors_file" = .ok "setup/detectors.conf" := by
  decide +kernel

/-- The header takes the path from the directory of the main file, the section from the
directory of the file where it stands. -/
theorem resolved_from_mainFile_scattered :
    Assembled scatteredSources scattered ∧
      Supplies scatteredSources scattered "detectors_file" "\"detectors.conf\""
        scatteredSection ∧
      Resolves scatteredSources scattered "detectors_file" "\"detectors.conf\""
        scatteredSection ∧
      scattered.header.getPath "detectors_file" = .ok "main/detectors.conf" ∧
      scatteredSection.getPath "detectors_file" = .ok "setup/detectors.conf" :=
  ⟨assembled_scattered, supplies_scattered,
    (resolved_from_mainFile assembled_scattered).2 _ _ _ supplies_scattered,
    getPath_header_scattered, getPath_scatteredSection⟩

/-- A path need not be the same in the header as where it stands. -/
theorem not_resolved_where_written :
    ¬ ∀ (sources : List (Source × Option String)) (reader : Reader), Assembled sources reader →
      ∀ key value s, Supplies sources reader key value s →
        reader.header.getPath key = s.getPath key := by
  intro same
  have equal := same _ _ assembled_scattered _ _ _ supplies_scattered
  rw [getPath_header_scattered, getPath_scatteredSection] at equal
  revert equal
  decide

end Assembled

end Config

end DetectorSim
