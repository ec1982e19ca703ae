import Mathlib.Data.List.Basic
import DetectorSim.Proofs.Config.Assignment
import DetectorSim.Proofs.Procedure
import DetectorSim.Simulation

/-!
# Global settings

The header of a configuration is made of all its sections without a name, wherever they
stand, and of the settings that override it.  Three conventions meet in it: within a
section the last setting of a key counts, among sections the first one that sets it, and
among overrides the last one again.

The texts that were read are told by their blocks, which are divided at the headers, so
that nothing here depends on how sections are kept.
-/

set_option autoImplicit false

namespace DetectorSim

namespace Config

/-! ## Blocks -/

/-- What the lines between two headers set, in order, under the name of the header before
them. -/
structure Block where
  name : String
  settings : List (String × String)
  deriving DecidableEq, Repr, Inhabited

namespace Block

/-- The keys that a block sets, as often as it does. -/
def keys (block : Block) : List String :=
  block.settings.map Prod.fst

/-- The section that a block makes. -/
def toSection (file : Option String) (block : Block) : Section :=
  (Section.empty block.name file).setAll block.settings

end Block

/-- The blocks of lines.  The first one has no name and ends at the first header. -/
def blocksOf (lines : List Line) : List Block :=
  List.zipWith Block.mk ("" :: lines.filterMap Line.name?)
    ((lines.splitOnP fun line => line.name?.isSome).map (List.filterMap Line.setting?))

/-- What the lines of a source say, without those that can not be read. -/
def Source.meanings (source : Source) : List Line :=
  source.lines.filterMap fun
    | .ok text => some (Line.read text)
    | .error _ => none

/-- The readers that sources were added to, one after the other and each to its end. -/
inductive Gathers : List Source → Reader → Prop
  | nothing : Gathers [] .empty
  | add {sources : List Source} {reader after : Reader} {source : Source}
      {file : Option String} (earlier : Gathers sources reader)
      (added : reader.add source file = (.ok (), after)) : Gathers (sources ++ [source]) after

/-- The blocks of some sources that belong to no section with a name. -/
def unnamedBlocks (sources : List Source) : List Block :=
  (sources.flatMap fun source => blocksOf source.meanings).filter fun block => block.name = ""

/-! ## Which value counts -/

/-- The last of some settings of a key gives it a value. -/
def LastSets (settings : List (String × String)) (key value : String) : Prop :=
  ∃ before after, settings = before ++ (key, value) :: after ∧ key ∉ after.map Prod.fst

/-- The first of some blocks that sets a key gives it a value. -/
def FirstSets (blocks : List Block) (key value : String) : Prop :=
  ∃ before block after, blocks = before ++ block :: after ∧
    (∀ other ∈ before, key ∉ other.keys) ∧ LastSets block.settings key value

theorem lastSets_iff {settings : List (String × String)} {key value : String} :
    LastSets settings key value ↔ Section.lookup key settings.reverse = some value := by
  rw [Section.lookup_eq_some_iff]
  constructor
  · rintro ⟨before, after, rfl, fresh⟩
    exact ⟨after.reverse, before.reverse, by simp, by rwa [List.map_reverse, List.mem_reverse]⟩
  · rintro ⟨before, after, split, fresh⟩
    refine ⟨after.reverse, before.reverse, ?_, by rwa [List.map_reverse, List.mem_reverse]⟩
    rw [← List.reverse_reverse settings, split]
    simp

theorem Block.lookup_eq_none_iff {block : Block} {key : String} :
    Section.lookup key block.settings.reverse = none ↔ key ∉ block.keys := by
  rw [Section.lookup_eq_none_iff, List.map_reverse, List.mem_reverse, Block.keys]

theorem firstSets_iff {blocks : List Block} {key value : String} :
    FirstSets blocks key value ↔
      (blocks.findSome? fun block => Section.lookup key block.settings.reverse) = some value := by
  simp only [FirstSets, lastSets_iff, List.findSome?_eq_some_iff, Block.lookup_eq_none_iff]
  constructor
  · rintro ⟨before, block, after, split, fresh, sets⟩
    exact ⟨before, block, after, split, sets, fresh⟩
  · rintro ⟨before, block, after, split, sets, fresh⟩
    exact ⟨before, block, after, split, fresh, sets⟩

/-! ## Sections and blocks -/

namespace Block

theorem text?_toSection (file : Option String) (block : Block) (key : String) :
    (block.toSection file).text? key = Section.lookup key block.settings.reverse := by
  rw [toSection, Section.text?_setAll]
  exact Option.or_none

theorem keys_toSection (file : Option String) (block : Block) :
    (block.toSection file).keys = block.keys.eraseDups := by
  have bare : (Section.empty block.name file).keys = ([] : List String).eraseDups :=
    List.eraseDups_nil.symm
  exact Section.keys_setAll bare block.settings

theorem name_toSection (file : Option String) (block : Block) :
    (block.toSection file).name = block.name :=
  Section.name_setAll _ block.settings

/-- A block sets the same in any file. -/
theorem entries_toSection (file : Option String) (block : Block) :
    (block.toSection file).entries = (block.toSection none).entries := by
  have same (settings : List (String × String)) (one other : Section)
      (start : one.entries = other.entries) :
      (one.setAll settings).entries = (other.setAll settings).entries := by
    induction settings generalizing one other with
    | nil => exact start
    | cons setting rest ih =>
      exact ih (one.set setting.1 setting.2) (other.set setting.1 setting.2)
        (congrArg (Section.setIn setting.1 setting.2) start)
  exact same block.settings _ _ rfl

end Block

theorem sectionsOf_eq_map (file : Option String) (lines : List Line) :
    sectionsOf file lines = (blocksOf lines).map (Block.toSection file) := by
  have opened : Section.empty "" file
      :: (lines.filterMap Line.name?).map (fun name => Section.empty name file)
        = ("" :: lines.filterMap Line.name?).map fun name => Section.empty name file := rfl
  rw [sectionsOf, sectionsFrom, blocksOf, opened, List.zipWith_map_left, List.map_zipWith,
    List.zipWith_map_right]
  rfl

namespace Section

theorem merge_of_entries_eq_nil {s other : Section} (bare : other.entries = []) :
    s.merge other = s := by
  rw [merge, bare, List.foldl_nil]

/-- Sections without keys do not matter for a merge. -/
theorem foldl_merge_filter {keep : Section → Bool} {sections : List Section}
    (bare : ∀ s ∈ sections, keep s = false → s.entries = []) (base : Section) :
    (sections.filter keep).foldl merge base = sections.foldl merge base := by
  induction sections generalizing base with
  | nil => rfl
  | cons s rest ih =>
    obtain ⟨first, others⟩ := List.forall_mem_cons.mp bare
    rw [List.filter_cons, List.foldl_cons]
    split
    · exact ih others _
    · next dropped =>
      rw [merge_of_entries_eq_nil (first (by simpa using dropped))]
      exact ih others _

end Section

/-! ## The header of a reader -/

/-- Every line of a source of readable lines is what it is read as. -/
theorem Source.meanings_eq {source : Source} {texts : List (List Char)} {lines : List Line}
    (source_eq : source.lines = texts.map .ok) (good : List.Forall₂ Line.Reads texts lines) :
    source.meanings = lines := by
  rw [Source.meanings, source_eq, List.filterMap_map, ← map_read_eq good,
    ← List.filterMap_eq_map]
  rfl

namespace Reader

/-- Lines that are read to their end can all be read. -/
theorem exists_texts_of_readLines {file : Option String} {number : Nat} {current : Section}
    {lines : List SourceLine} {closed : List Section}
    (read : readLines file number current lines = (.ok (), closed)) :
    ∃ texts : List (List Char), lines = texts.map .ok := by
  induction lines generalizing number current closed with
  | nil => exact ⟨[], rfl⟩
  | cons line rest ih =>
    cases line with
    | error err => cases read
    | ok text =>
      have later : ∃ number current closed,
          readLines file number current rest = (.ok (), closed) := by
        rw [readLines] at read
        cases said : Line.read text with
        | blank => exact ⟨_, _, _, by simpa only [said] using read⟩
        | entry key value => exact ⟨_, _, _, by simpa only [said] using read⟩
        | malformed =>
          simp only [said] at read
          cases read
        | header name =>
          simp only [said] at read
          obtain ⟨ended, -⟩ := Prod.mk.inj read
          exact ⟨_, _, _, Prod.ext ended rfl⟩
      obtain ⟨_, _, _, later⟩ := later
      obtain ⟨texts, rfl⟩ := ih later
      exact ⟨text :: texts, rfl⟩

/-- A source that is read to its end appends the sections of what its lines say. -/
theorem sections_of_add {reader after : Reader} {source : Source} {file : Option String}
    (added : reader.add source file = (.ok (), after)) :
    after.sections = reader.sections ++
      (closedAmong (sectionsOf file source.meanings)
        ++ (sectionsOf file source.meanings).getLast?.toList) := by
  obtain ⟨ended, rfl⟩ := Prod.mk.inj added
  obtain ⟨texts, source_eq⟩ := exists_texts_of_readLines (Prod.ext ended rfl)
  obtain ⟨outcome, appended, parses⟩ := exists_parses file texts
  have read := parses.readLines_eq
  rw [← source_eq] at read
  rw [read] at ended ⊢
  obtain rfl : outcome = .ok () := ended
  cases parses with
  | whole good => rw [Source.meanings_eq source_eq good]

/-- The sections without a name that a text appends are merged like all those of its
blocks. -/
theorem foldl_merge_appended (sections : List Section) (base : Section) :
    ((closedAmong sections ++ sections.getLast?.toList).filter
        fun s => s.name.isEmpty).foldl Section.merge base
      = (sections.filter fun s => s.name.isEmpty).foldl Section.merge base := by
  obtain rfl | ⟨front, last, rfl⟩ := sections.eq_nil_or_concat'
  · rfl
  · -- What is dropped among the closed sections has no keys; the last one stays anyway.
    have bare : ∀ s ∈ front.filter (fun s => s.name.isEmpty),
        decide (s.name ≠ "" ∨ s.entries ≠ []) = false → s.entries = [] := by
      intro s _ dropped
      simpa using (not_or.mp (of_decide_eq_false dropped)).2
    rw [closedAmong, List.dropLast_concat, List.getLast?_concat, Option.toList_some,
      List.filter_append, List.filter_append, List.foldl_append, List.foldl_append,
      List.filter_comm, Section.foldl_merge_filter bare]

end Reader

theorem Section.foldl_merge_map (blocks : List Block) (file : Option String) (base : Section) :
    (blocks.map (Block.toSection file)).foldl merge base
      = (blocks.map (Block.toSection none)).foldl merge base := by
  have same (s : Section) (block : Block) :
      s.merge (block.toSection file) = s.merge (block.toSection none) := by
    rw [merge, block.entries_toSection, ← merge]
  simp only [List.foldl_map, same]

/-- What a reader has gathered is merged like the blocks of its sources that have no
name. -/
theorem Gathers.foldl_merge_headers {sources : List Source} {reader : Reader}
    (gathers : Gathers sources reader) (base : Section) :
    reader.headers.foldl Section.merge base
      = ((unnamedBlocks sources).map (Block.toSection none)).foldl Section.merge base := by
  induction gathers with
  | nothing => rfl
  | @add sources reader after source file earlier added ih =>
    have unnamed : ∀ blocks : List Block,
        (blocks.map (Block.toSection file)).filter (fun s => s.name.isEmpty)
          = (blocks.filter fun block => block.name = "").map (Block.toSection file) := by
      intro blocks
      rw [List.filter_map]
      refine congrArg _ (List.filter_congr fun block _ => ?_)
      rw [Function.comp_apply, block.name_toSection, Bool.eq_iff_iff, String.isEmpty_iff,
        decide_eq_true_iff]
    rw [Reader.headers, Reader.sections_of_add added, List.filter_append, List.foldl_append,
      ← Reader.headers, ih, Reader.foldl_merge_appended, sectionsOf_eq_map, unnamed,
      Section.foldl_merge_map, ← List.foldl_append, ← List.map_append, unnamedBlocks,
      unnamedBlocks, List.flatMap_append, List.filter_append, List.flatMap_singleton]

theorem Section.keys_foldl_merge_map (blocks : List Block) {base : Section} {keys : List String}
    (known : base.keys = keys.eraseDups) :
    ((blocks.map (Block.toSection none)).foldl merge base).keys
      = (keys ++ blocks.flatMap Block.keys).eraseDups := by
  induction blocks generalizing base keys with
  | nil => rw [List.flatMap_nil, List.append_nil, ← known]; rfl
  | cons block rest ih =>
    rw [List.map_cons, List.foldl_cons, ih (keys_merge known (block.keys_toSection none)),
      List.append_assoc, List.flatMap_cons]

/-! ## The effective header -/

/-- A header holds what some blocks and some overrides make of it. -/
structure Effective (blocks : List Block) (overrides : List (String × String))
    (header : Section) : Prop where
  /-- The last override counts, or else the first block that sets the key. -/
  value : ∀ key value, header.text? key = some value ↔
    LastSets overrides key value ∨
      key ∉ overrides.map Prod.fst ∧ FirstSets blocks key value
  /-- A key that neither an override nor one of the blocks sets has no value. -/
  absent : ∀ key, header.text? key = none ↔
    key ∉ overrides.map Prod.fst ∧ ∀ block ∈ blocks, key ∉ block.keys
  /-- The keys of the blocks come first, then those that only overrides set. -/
  ordered : header.keys = (blocks.flatMap Block.keys).eraseDups
    ++ ((overrides.map Prod.fst).filter fun key => key ∉ blocks.flatMap Block.keys).eraseDups
  distinct : header.keys.Nodup

theorem effective_setAll (blocks : List Block) (overrides : List (String × String))
    (file : Option String) :
    Effective blocks overrides (((blocks.map (Block.toSection none)).foldl Section.merge
      (Section.empty "" file)).setAll overrides) := by
  have bare : (Section.empty "" file).keys = ([] : List String).eraseDups :=
    List.eraseDups_nil.symm
  have merged (key : String) : ((blocks.map (Block.toSection none)).foldl Section.merge
      (Section.empty "" file)).text? key
        = blocks.findSome? fun block => Section.lookup key block.settings.reverse := by
    rw [Section.text?_foldl_merge, List.findSome?_map]
    simp only [Function.comp_def, Block.text?_toSection]
    exact Option.none_or
  have keys_eq := Section.keys_setAll (Section.keys_foldl_merge_map blocks bare) overrides
  refine ⟨fun key value => ?_, fun key => ?_, ?_, ?_⟩
  · rw [Section.text?_setAll, merged, Option.or_eq_some_iff, ← lastSets_iff, ← firstSets_iff,
      Section.lookup_eq_none_iff, List.map_reverse, List.mem_reverse]
  · rw [Section.text?_setAll, merged, Option.or_eq_none_iff, List.findSome?_eq_none_iff,
      Section.lookup_eq_none_iff, List.map_reverse, List.mem_reverse]
    simp only [Block.lookup_eq_none_iff]
  · rw [keys_eq, List.nil_append, List.eraseDups_append]
    simp only [List.removeAll, List.elem_eq_mem, decide_not]
  · rw [keys_eq]
    exact Section.nodup_eraseDups _

/-- Every reader that is built from sources has the header of their blocks without a name. -/
theorem Gathers.effective {sources : List Source} {reader : Reader}
    (gathers : Gathers sources reader) (overrides : List (String × String)) :
    Effective (unnamedBlocks sources) overrides (reader.header.setAll overrides) := by
  rw [Reader.header, gathers.foldl_merge_headers]
  exact effective_setAll _ overrides _

end Config

namespace Simulation

open Config

/-- Overrides are settings that come after all others. -/
theorem exists_each_applyOverride (overrides : List (String × String)) (header : Section)
    (journal : Journal) : ∃ later,
      Proc.each applyOverride overrides (header, journal)
        = (.ok (), (header.setAll overrides, later)) := by
  induction overrides generalizing header journal with
  | nil => exact ⟨journal, rfl⟩
  | cons entry rest ih =>
    obtain ⟨later, replaced⟩ := ih (header.set entry.1 entry.2)
      (journal.write .debug s!"Overriding {entry.1} = {entry.2}")
    exact ⟨later, replaced⟩

theorem exists_overriddenHeader (reader : Reader) (overrides : List (String × String))
    (journal : Journal) : ∃ later,
      overriddenHeader reader overrides journal
        = (.ok (reader.header.setAll overrides), later) := by
  obtain ⟨later, replaced⟩ := exists_each_applyOverride overrides reader.header journal
  refine ⟨later, ?_⟩
  rw [overriddenHeader, Proc.withLocal, Proc.bind_apply, Proc.andThen, replaced]
  rfl

/-- **Global settings.**  Whatever sources a reader was built from and whatever keys are
overridden, a simulation is set up with the settings of one header, and fails if there are
none.  In that header the last override of a key counts, or else the first block without a
name that sets it, with its last setting of the key.  It has no other keys. -/
theorem effective_setUp {sources : List Source} {reader : Reader}
    (gathers : Gathers sources reader) (overrides : List (String × String))
    (journal : Journal) :
    ∃ header later, overriddenHeader reader overrides journal = (.ok header, later) ∧
      Effective (unnamedBlocks sources) overrides header ∧
      ∀ {κ ω : Type} [Payload κ] (files : FileStore) (collections : List (Collection κ ω)),
        (∀ simulation, (setUp files reader overrides collections journal).1 = .ok simulation →
          (Settings.ofHeader header later).1 = .ok simulation.settings) ∧
        ∀ err, (Settings.ofHeader header later).1 = .error err →
          (setUp files reader overrides collections journal).1 = .error err := by
  obtain ⟨later, replaced⟩ := exists_overriddenHeader reader overrides journal
  refine ⟨_, later, replaced, gathers.effective overrides, fun _ _ => ⟨?_, ?_⟩⟩
  · intro simulation made
    rw [setUp, Proc.bind_apply, Proc.andThen, replaced] at made
    obtain ⟨settings, _, evaluated, made⟩ := Proc.andThen_eq_ok.mp (Prod.ext made rfl)
    obtain ⟨_, _, _, made⟩ := Proc.andThen_eq_ok.mp made
    obtain ⟨_, _, _, made⟩ := Proc.andThen_eq_ok.mp made
    obtain rfl := Outcome.ok.inj (Prod.mk.inj made).1
    rw [evaluated]
  · intro err failed
    rw [setUp, Proc.bind_apply, Proc.andThen, replaced]
    exact Proc.fst_andThen_of_error failed

/-- Two sources; in the first one the settings without a name go on after a section with
one. -/
def reopenedSources : List Source :=
  [.ofString "workers = 2\nworkers = 3\n[A]\nseed = 1\n[]\nworkers = 4\n",
    .ofString "workers = 5\nlog_level = warn\n"]

/-- What is read from the first of them. -/
def reopenedSections : List Section :=
  [⟨"", none, [("workers", "3")]⟩, ⟨"A", none, [("seed", "1")]⟩, ⟨"", none, [("workers", "4")]⟩]

/-- What is read from both. -/
def reopened : Reader :=
  ⟨reopenedSections ++ [⟨"", some "b", [("workers", "5"), ("log_level", "warn")]⟩]⟩

theorem gathers_reopened : Gathers reopenedSources reopened :=
  have first : Reader.empty.add
      (.ofString "workers = 2\nworkers = 3\n[A]\nseed = 1\n[]\nworkers = 4\n") none
        = (.ok (), ⟨reopenedSections⟩) := by decide
  have second : Reader.add ⟨reopenedSections⟩
      (.ofString "workers = 5\nlog_level = warn\n") (some "b") = (.ok (), reopened) := by decide
  (Gathers.nothing.add first).add second

/-- The last override counts, or else the first of the blocks without a name. -/
theorem effective_setUp_reopened :
    Gathers reopenedSources reopened ∧ ∃ header,
      (overriddenHeader reopened [("seed", "6"), ("log_level", "info"), ("seed", "7")] default).1
        = .ok header ∧
      header.entries = [("workers", "3"), ("log_level", "info"), ("seed", "7")] ∧
      Effective [⟨"", [("workers", "2"), ("workers", "3")]⟩, ⟨"", [("workers", "4")]⟩,
          ⟨"", [("workers", "5"), ("log_level", "warn")]⟩]
        [("seed", "6"), ("log_level", "info"), ("seed", "7")] header := by
  have blocks : unnamedBlocks reopenedSources
      = [⟨"", [("workers", "2"), ("workers", "3")]⟩, ⟨"", [("workers", "4")]⟩,
        ⟨"", [("workers", "5"), ("log_level", "warn")]⟩] := by
    decide
  obtain ⟨header, later, replaced, effective, -⟩ := effective_setUp gathers_reopened
    [("seed", "6"), ("log_level", "info"), ("seed", "7")] default
  have held : (overriddenHeader reopened
      [("seed", "6"), ("log_level", "info"), ("seed", "7")] default).1
        = .ok ⟨"", none, [("workers", "3"), ("log_level", "info"), ("seed", "7")]⟩ := by
    decide
  obtain rfl := Outcome.ok.inj ((congrArg Prod.fst replaced).symm.trans held)
  rw [← blocks]
  exact ⟨gathers_reopened, _, held, rfl, effective⟩

end Simulation

end DetectorSim
