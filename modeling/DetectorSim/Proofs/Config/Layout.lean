import Mathlib.Data.List.Basic
import Mathlib.Data.List.Forall2
import Mathlib.Logic.Relation
import DetectorSim.Proofs.Config.Rendering

/-!
# Layout and comments

Changes to a text that do not change what is read from it.  Lines that say nothing come
and go; in the others blanks and comments do, where the grammar has room for them.  Two
texts that differ only so are read alike: both give the same sections, or both fail at
the same line, counted without the lines that say nothing.
-/

set_option autoImplicit false

namespace DetectorSim.Config

open DetectorSim.Text

namespace Line

/-! ## Changes to a line -/

/-- The first character that is not blank, if there is one, starts a comment. -/
def Idle (line : List Char) : Prop :=
  ∀ c ∈ (trimStart line).head?, c = '#'

theorem endsLine_iff_idle {text : List Char} : endsLine text ↔ Idle text := by
  rw [Idle, ← head?_trim, endsLine]
  cases trim text <;> simp

instance (line : List Char) : Decidable (Idle line) :=
  decidable_of_iff (endsLine line) endsLine_iff_idle

/-- The first character that is not blank is a letter. -/
def StartsKey (line : List Char) : Prop :=
  ∃ c ∈ (trimStart line).head?, c.isAlpha

/-- Blanks or a comment are added to a line. -/
inductive Padded : List Char → List Char → Prop
  | atStart {blanks : List Char} (space : ∀ c ∈ blanks, isBlank c) (line : List Char) :
      Padded line (blanks ++ line)
  | atEnd {blanks : List Char} (space : ∀ c ∈ blanks, isBlank c) (line : List Char) :
      Padded line (line ++ blanks)
  | beforeSign {before blanks : List Char} (start : StartsKey before) (first : '=' ∉ before)
      (space : ∀ c ∈ blanks, isBlank c) (after : List Char) :
      Padded (before ++ '=' :: after) (before ++ blanks ++ '=' :: after)
  | afterSign {before blanks : List Char} (start : StartsKey before) (first : '=' ∉ before)
      (space : ∀ c ∈ blanks, isBlank c) (after : List Char) :
      Padded (before ++ '=' :: after) (before ++ '=' :: (blanks ++ after))
  /-- Whatever comment stands after a header. -/
  | afterHeader {before : List Char} (space : ∀ c ∈ before, isBlank c)
      (header comment : List Char) :
      Padded (before ++ '[' :: header) (before ++ '[' :: (header ++ '#' :: comment))
  /-- Whatever comment stands after a value whose quotes are all closed. -/
  | afterValue {before value : List Char} (start : StartsKey before) (first : '=' ∉ before)
      (closed : Closed value) (comment : List Char) :
      Padded (before ++ '=' :: value) (before ++ '=' :: (value ++ '#' :: comment))

/-- One line comes from the other by adding and taking away blanks and comments. -/
abbrev Alike : List Char → List Char → Prop :=
  Relation.EqvGen Padded

/-! ## What is read from a changed line -/

theorem StartsKey.trimStart_append {before : List Char} (start : StartsKey before)
    (after : List Char) : trimStart (before ++ after) = trimStart before ++ after := by
  obtain ⟨c, head, -⟩ := start
  obtain ⟨rest, same⟩ : ∃ rest, trimStart before = c :: rest := List.head?_eq_some_iff.mp head
  rw [trimStart, List.dropWhile_append, ← trimStart, same]
  rfl

theorem StartsKey.append {before : List Char} (start : StartsKey before) (after : List Char) :
    StartsKey (before ++ after) := by
  rw [StartsKey, start.trimStart_append]
  obtain ⟨c, head, letter⟩ := start
  exact ⟨c, List.mem_head?_append_of_mem_head? head, letter⟩

/-- A line that starts with a letter is read from what stands on the two sides of the
first equals sign. -/
theorem read_append_sign {before : List Char} (start : StartsKey before) (first : '=' ∉ before)
    (after : List Char) :
    read (before ++ '=' :: after) = ofPair (trim before) (trim (cutComment after)) := by
  have trimmed : trim (before ++ '=' :: after) = trimStart before ++ '=' :: trimEnd after := by
    rw [trim, start.trimStart_append, trimEnd_append_cons (by decide)]
  obtain ⟨blanks, space, split, -⟩ := trimStart_spec before
  have key : trim before = trim (trimStart before) := by
    conv_lhs => rw [split, trim_blanks_append space]
  -- The blanks at the end are trimmed with the line, before the comment is cut.
  obtain ⟨last, spaceLast, splitLast, -⟩ := trimEnd_spec after
  obtain ⟨more, spaceMore, cut⟩ := exists_cutComment_append_blanks spaceLast (trimEnd after)
  have value : trim (cutComment after) = trim (cutComment (trimEnd after)) := by
    conv_lhs => rw [splitLast, cut, trim_append_blanks spaceMore]
  have clean : '=' ∉ trimStart before := fun mem =>
    first (split ▸ List.mem_append_right _ mem)
  obtain ⟨c, head, letter⟩ := start
  obtain ⟨rest, same⟩ : ∃ rest, trimStart before = c :: rest := List.head?_eq_some_iff.mp head
  rw [read, trimmed, key, value, ← readEntry_append clean, same]
  exact readTrimmed_of_isAlpha letter _

theorem readHeader_of_stop {word rest : List Char} {c : Char}
    (letters : ∀ d ∈ word, isNameChar d) (stop : isNameChar c = false) :
    readHeader (word ++ c :: rest) =
      if c = ']' ∧ endsLine rest then .header (String.ofList word) else .malformed := by
  unfold readHeader
  rw [List.dropWhile_append_of_pos letters, List.dropWhile_cons_of_neg (by simp [stop]),
    List.takeWhile_append_of_pos letters, List.takeWhile_cons_of_neg (by simp [stop]),
    List.append_nil]
  by_cases closes : c = ']'
  · subst closes
    simp
  · rw [if_neg fun both => closes both.1]
    split
    · next same => exact absurd (List.cons.inj same).1 closes
    · rfl

/-- What ends a word and does not matter for the end of a line does not matter after a
header. -/
theorem readHeader_append {c : Char} {more : List Char} (stop : isNameChar c = false)
    (other : c ≠ ']') (ends : ∀ rest, endsLine (rest ++ c :: more) = endsLine rest)
    (text : List Char) : readHeader (text ++ c :: more) = readHeader text := by
  have letters : ∀ d ∈ text.takeWhile isNameChar, isNameChar d := fun d => List.mem_takeWhile_imp
  have split : text = text.takeWhile isNameChar ++ text.dropWhile isNameChar :=
    List.takeWhile_append_dropWhile.symm
  rw [split]
  cases left : text.dropWhile isNameChar with
  | nil =>
    rw [List.append_nil, readHeader_of_stop letters stop, if_neg fun both => other both.1]
    rw [readHeader, List.dropWhile_eq_nil_iff.mpr letters]
  | cons d rest =>
    have stops : isNameChar d = false := by
      have := List.head?_dropWhile_not isNameChar text
      rw [left] at this
      simpa using this
    rw [List.append_assoc, List.cons_append, readHeader_of_stop letters stops,
      readHeader_of_stop letters stops, ends]

theorem readHeader_trimEnd (text : List Char) : readHeader (trimEnd text) = readHeader text := by
  obtain ⟨blanks, space, split, -⟩ := trimEnd_spec text
  conv_rhs => rw [split]
  cases blanks with
  | nil => rw [List.append_nil]
  | cons c more =>
    have blank : isBlank c := space c List.mem_cons_self
    refine (readHeader_append ?_ ?_ (fun rest => ?_) _).symm
    · by_contra word
      exact absurd blank (by simp [isBlank_of_isNameChar (by simpa using word)])
    · rintro rfl
      exact absurd blank (by decide)
    · rw [endsLine, trim_append_blanks space, ← endsLine]

theorem readHeader_append_comment (text comment : List Char) :
    readHeader (text ++ '#' :: comment) = readHeader text := by
  refine readHeader_append (by decide) (by decide) (fun rest => ?_) text
  rw [Bool.eq_iff_iff, endsLine_iff_idle, endsLine_iff_idle, Idle, Idle, trimStart,
    List.dropWhile_append, ← trimStart]
  cases trimStart rest with
  | nil => exact iff_of_true (fun c same => (Option.some.inj same).symm) nofun
  | cons c after => exact Iff.rfl

/-- A line that starts with a bracket is read from what stands after it. -/
theorem read_bracket {before : List Char} (space : ∀ c ∈ before, isBlank c) (text : List Char) :
    read (before ++ '[' :: text) = readHeader text := by
  have opened : trimStart ('[' :: text) = '[' :: text := List.dropWhile_cons_of_neg (by decide)
  have trimmed : trim ('[' :: text) = '[' :: trimEnd text := by
    rw [trim, opened]
    exact trimEnd_append_cons (by decide) [] text
  rw [read, trim_blanks_append space, trimmed]
  exact readHeader_trimEnd text

/-- What is read from a line does not change with blanks and comments. -/
theorem Padded.read_eq {old new : List Char} (padded : Padded old new) : read new = read old := by
  cases padded with
  | atStart space => rw [read, trim_blanks_append space, ← read]
  | atEnd space => rw [read, trim_append_blanks space, ← read]
  | @beforeSign before blanks start first space after =>
    have clean : '=' ∉ before ++ blanks := fun mem => (List.mem_append.mp mem).elim first
      fun mem => absurd (space _ mem) (by decide)
    rw [read_append_sign (start.append blanks) clean, trim_append_blanks space,
      ← read_append_sign start first]
  | afterSign start first space after =>
    rw [read_append_sign start first, cutComment_blanks_append space, trim_blanks_append space,
      ← read_append_sign start first]
  | afterHeader space header comment =>
    rw [read_bracket space, readHeader_append_comment, ← read_bracket space]
  | afterValue start first closed comment =>
    rw [read_append_sign start first, cutComment_append_comment closed,
      ← read_append_sign start first]

theorem Alike.read_eq {line other : List Char} (alike : Alike line other) :
    read line = read other := by
  induction alike with
  | rel _ _ padded => exact padded.read_eq.symm
  | refl => rfl
  | symm _ _ _ ih => exact ih.symm
  | trans _ _ _ _ _ first second => exact first.trans second

theorem readHeader_ne_blank (text : List Char) : readHeader text ≠ .blank := by
  unfold readHeader
  split
  · split <;> nofun
  · nofun

theorem readEntry_ne_blank (text : List Char) : readEntry text ≠ .blank := by
  unfold readEntry
  split
  · nofun
  · simp only
    split <;> nofun

theorem readTrimmed_ne_blank {c : Char} (other : c ≠ '#') (rest : List Char) :
    readTrimmed (c :: rest) ≠ .blank := by
  unfold readTrimmed
  split
  · next none => cases none
  · next same => exact absurd (List.cons.inj same).1 other
  · exact readHeader_ne_blank _
  · split
    · exact readEntry_ne_blank _
    · nofun

/-- The lines that say nothing are those that are read as such. -/
theorem idle_iff {line : List Char} : Idle line ↔ read line = .blank := by
  rw [Idle, ← head?_trim, read]
  cases trim line with
  | nil => exact iff_of_true (fun c mem => absurd mem (Option.not_mem_none c)) rfl
  | cons c rest =>
    by_cases sign : c = '#'
    · subst sign
      exact iff_of_true (fun d same => (Option.some.inj same).symm) rfl
    · exact iff_of_false (fun all => sign (all c rfl)) (readTrimmed_ne_blank sign rest)

theorem Idle.readable {line : List Char} (idle : Idle line) : Readable line := by
  rw [readable_iff, idle_iff.mp idle]
  nofun

end Line

/-! ## Changes to a text -/

/-- A line that says nothing is put in, or blanks or a comment are added to a line. -/
inductive Widened : List (List Char) → List (List Char) → Prop
  | idle {line : List Char} (idle : Line.Idle line) (before after : List (List Char)) :
      Widened (before ++ after) (before ++ line :: after)
  | padded {old new : List Char} (padded : Line.Padded old new)
      (before after : List (List Char)) :
      Widened (before ++ old :: after) (before ++ new :: after)

/-- The lines that say something. -/
def content (lines : List (List Char)) : List (List Char) :=
  lines.filter fun line => ¬ Line.Idle line

/-- The lines that say something correspond to each other, in order. -/
def SameContent (lines others : List (List Char)) : Prop :=
  List.Forall₂ Line.Alike (content lines) (content others)

/-- Two line numbers denote the same line of content. -/
inductive SameLine : List (List Char) → Nat → List (List Char) → Nat → Prop
  | intro {front first : List (List Char)} {line other : List Char}
      (earlier : SameContent front first) (alike : Line.Alike line other)
      (speaks : ¬ Line.Idle line) (rest last : List (List Char)) :
      SameLine (front ++ line :: rest) (front.length + 1)
        (first ++ other :: last) (first.length + 1)

theorem content_append (front rest : List (List Char)) :
    content (front ++ rest) = content front ++ content rest :=
  List.filter_append _ _

theorem content_cons {line : List Char} (speaks : ¬ Line.Idle line) (rest : List (List Char)) :
    content (line :: rest) = line :: content rest :=
  List.filter_cons_of_pos (by simpa using speaks)

theorem content_cons_of_idle {line : List Char} (idle : Line.Idle line)
    (rest : List (List Char)) : content (line :: rest) = content rest :=
  List.filter_cons_of_neg (by simpa using idle)

namespace SameContent

theorem refl (lines : List (List Char)) : SameContent lines lines :=
  List.forall₂_same.mpr fun line _ => .refl line

theorem symm {lines others : List (List Char)} (same : SameContent lines others) :
    SameContent others lines :=
  (same.imp fun _ _ alike => .symm _ _ alike).flip

theorem trans {lines others more : List (List Char)} (first : SameContent lines others)
    (second : SameContent others more) : SameContent lines more := by
  unfold SameContent at *
  generalize content lines = a, content others = b, content more = c at first second ⊢
  induction first generalizing c with
  | nil =>
    cases second
    exact .nil
  | cons alike _ ih =>
    cases second with
    | cons again rest => exact .cons (.trans _ _ _ alike again) (ih _ rest)

end SameContent

/-- One change keeps the lines that say something, up to blanks and comments. -/
theorem Widened.sameContent {lines others : List (List Char)} (widened : Widened lines others) :
    SameContent lines others := by
  cases widened with
  | idle idle before after =>
    rw [SameContent, content_append, content_append, content_cons_of_idle idle, ← content_append]
    exact SameContent.refl _
  | @padded old new padded before after =>
    have alike : Line.Alike old new := .rel _ _ padded
    rw [SameContent, content_append, content_append]
    refine List.rel_append (SameContent.refl before) ?_
    by_cases idle : Line.Idle old
    · rw [content_cons_of_idle idle,
        content_cons_of_idle (Line.idle_iff.mpr (alike.read_eq ▸ Line.idle_iff.mp idle))]
      exact SameContent.refl after
    · have speaks : ¬ Line.Idle new := fun quiet =>
        idle (Line.idle_iff.mpr (alike.read_eq.trans (Line.idle_iff.mp quiet)))
      rw [content_cons idle, content_cons speaks]
      exact .cons alike (SameContent.refl after)

/-- So do any number of changes. -/
theorem sameContent_of_eqvGen {lines others : List (List Char)}
    (changed : Relation.EqvGen Widened lines others) : SameContent lines others := by
  induction changed with
  | rel _ _ widened => exact widened.sameContent
  | refl lines => exact .refl lines
  | symm _ _ _ ih => exact ih.symm
  | trans _ _ _ _ _ first second => exact first.trans second

/-! ## What is read from a changed text -/

/-- Lines that say nothing do not matter for the sections. -/
theorem sectionsFrom_filter (file : Option String) (current : Section) (lines : List Line) :
    sectionsFrom file current (lines.filter fun line => line ≠ .blank)
      = sectionsFrom file current lines := by
  induction lines generalizing current with
  | nil => rfl
  | cons line rest ih =>
    cases line with
    | blank =>
      rw [List.filter_cons_of_neg (by simp), ih, sectionsFrom_cons (by rfl)]
      rfl
    | malformed | entry =>
      rw [List.filter_cons_of_pos (by simp), sectionsFrom_cons (by rfl),
        sectionsFrom_cons (by rfl), ih]
    | header name =>
      rw [List.filter_cons_of_pos (by simp), sectionsFrom_header, sectionsFrom_header, ih]

theorem map_read_content (lines : List (List Char)) :
    (content lines).map Line.read = (lines.map Line.read).filter fun line => line ≠ .blank := by
  rw [List.filter_map]
  refine congrArg _ (List.filter_congr fun line _ => ?_)
  rw [Function.comp_apply, decide_eq_decide, Line.idle_iff]

/-- Whether all lines can be read is up to those that say something. -/
theorem all_readable_iff (lines : List (List Char)) :
    (∀ line ∈ lines, Line.Readable line) ↔ Line.malformed ∉ (content lines).map Line.read := by
  rw [map_read_content, List.mem_filter, List.mem_map]
  simp only [Line.readable_iff]
  constructor
  · rintro all ⟨⟨line, mem, malformed⟩, -⟩
    exact all line mem malformed
  · intro none line mem malformed
    exact none ⟨⟨line, mem, malformed⟩, by simp⟩

namespace SameContent

variable {lines others : List (List Char)}

theorem map_read (same : SameContent lines others) :
    (content lines).map Line.read = (content others).map Line.read := by
  have alike : List.Forall₂ (· = ·) ((content lines).map Line.read)
      ((content others).map Line.read) := by
    rw [List.forall₂_map_left_iff, List.forall₂_map_right_iff]
    exact same.imp fun _ _ alike => alike.read_eq
  rwa [List.forall₂_eq_eq_eq] at alike

theorem sectionsOf_eq {meanings more : List Line} (same : SameContent lines others)
    (good : List.Forall₂ Line.Reads lines meanings) (fine : List.Forall₂ Line.Reads others more)
    (file : Option String) : sectionsOf file meanings = sectionsOf file more := by
  have alike := same.map_read
  rw [map_read_content, map_read_content, map_read_eq good, map_read_eq fine] at alike
  rw [sectionsOf, sectionsOf, ← sectionsFrom_filter, alike, sectionsFrom_filter]

theorem all_readable_iff (same : SameContent lines others) :
    (∀ line ∈ lines, Line.Readable line) ↔ ∀ line ∈ others, Line.Readable line := by
  rw [Config.all_readable_iff, same.map_read, ← Config.all_readable_iff]

end SameContent

theorem Line.Alike.readable_iff {line other : List Char} (alike : Line.Alike line other) :
    Line.Readable line ↔ Line.Readable other := by
  rw [Line.readable_iff, Line.readable_iff, alike.read_eq]

/-- Lists that correspond to each other do so up to the first elements without a property
that is kept. -/
theorem forall₂_of_first {α : Type} {R : α → α → Prop} {P : α → Prop}
    (kept : ∀ a b, R a b → (P a ↔ P b)) {front rest first last : List α} {a b : α}
    (related : List.Forall₂ R (front ++ a :: rest) (first ++ b :: last))
    (good : ∀ c ∈ front, P c) (bad : ¬ P a) (fine : ∀ c ∈ first, P c) (wrong : ¬ P b) :
    List.Forall₂ R front first ∧ R a b := by
  induction front generalizing first with
  | nil =>
    cases first with
    | nil =>
      cases related with
      | cons here _ => exact ⟨.nil, here⟩
    | cons c more =>
      cases related with
      | cons here _ => exact absurd ((kept _ _ here).mpr (fine c List.mem_cons_self)) bad
  | cons c more ih =>
    obtain ⟨here, others⟩ := List.forall_mem_cons.mp good
    cases first with
    | nil =>
      cases related with
      | cons same _ => exact absurd ((kept _ _ same).mp here) wrong
    | cons d more =>
      cases related with
      | cons same later =>
        obtain ⟨front, ends⟩ := ih later others fun e mem => fine e (List.mem_cons_of_mem _ mem)
        exact ⟨.cons same front, ends⟩

/-- The first lines of two texts that can not be read correspond to each other. -/
theorem SameContent.sameLine {front rest first last : List (List Char)} {bad other : List Char}
    (same : SameContent (front ++ bad :: rest) (first ++ other :: last))
    (good : ∀ line ∈ front, Line.Readable line) (malformed : ¬ Line.Readable bad)
    (fine : ∀ line ∈ first, Line.Readable line) (wrong : ¬ Line.Readable other) :
    SameLine (front ++ bad :: rest) (front.length + 1) (first ++ other :: last)
      (first.length + 1) := by
  have speaks : ¬ Line.Idle bad := mt Line.Idle.readable malformed
  rw [SameContent, content_append, content_append, content_cons speaks,
    content_cons (mt Line.Idle.readable wrong)] at same
  obtain ⟨earlier, alike⟩ := forall₂_of_first (fun _ _ alike => alike.readable_iff) same
    (fun line mem => good line (List.mem_filter.mp mem).1) malformed
    (fun line mem => fine line (List.mem_filter.mp mem).1) wrong
  exact .intro earlier alike speaks rest last

namespace Reader

/-- **Layout.**  Two texts that differ only by lines that say nothing and by blanks and
comments in the other lines give the same sections, or both fail, at the same line of
content. -/
theorem ofString_alike {text other : String}
    (changed : Relation.EqvGen Widened (linesOf '\n' text.toList) (linesOf '\n' other.toList))
    (journal later : Journal) :
    (∃ reader, (ofString text journal).1 = .ok reader ∧ (ofString other later).1 = .ok reader) ∨
      ∃ number more,
        SameLine (linesOf '\n' text.toList) number (linesOf '\n' other.toList) more ∧
        (ofString text journal).1 = .error (.malformedLine "" number) ∧
        (ofString other later).1 = .error (.malformedLine "" more) := by
  have same := sameContent_of_eqvGen changed
  obtain ⟨outcome, appended, parses⟩ := exists_parses none (linesOf '\n' text.toList)
  obtain ⟨ended, found, again⟩ := exists_parses none (linesOf '\n' other.toList)
  have first := fst_ofString text journal
  have second := fst_ofString other later
  rw [parses.add_ofString] at first
  rw [again.add_ofString] at second
  -- Either both texts are read to their end, or none of them.
  have both : outcome = .ok () ↔ ended = .ok () := by
    rw [parses.eq_ok_iff, again.eq_ok_iff, same.all_readable_iff]
  cases parses with
  | whole good =>
    cases again with
    | whole fine =>
      refine .inl ⟨_, first, second.trans ?_⟩
      rw [same.sectionsOf_eq good fine]
      rfl
    | stopped => cases both.mp rfl
  | stopped split good malformed =>
    cases again with
    | whole => cases both.mpr rfl
    | stopped splitAgain fine wrong =>
      refine .inr ⟨_, _, ?_, first, second⟩
      rw [split, splitAgain] at same ⊢
      exact same.sameLine (fun _ => readable_of_mem good) malformed
        (fun _ => readable_of_mem fine) wrong

/-- A comment after a header, an empty line, and a blank and a comment around a setting
move a malformed line by one. -/
theorem ofString_alike_moved :
    Relation.EqvGen Widened (linesOf '\n' "[S]\na = 1\n?\n".toList)
        (linesOf '\n' "[S]# s\n\n a = 1# it's\n?\n".toList) ∧
      SameLine (linesOf '\n' "[S]\na = 1\n?\n".toList) 3
        (linesOf '\n' "[S]# s\n\n a = 1# it's\n?\n".toList) 4 := by
  have lines : linesOf '\n' "[S]\na = 1\n?\n".toList =
      [['[', 'S', ']'], ['a', ' ', '=', ' ', '1'], ['?']] := by
    decide
  have others : linesOf '\n' "[S]# s\n\n a = 1# it's\n?\n".toList =
      [['[', 'S', ']', '#', ' ', 's'], [],
        [' ', 'a', ' ', '=', ' ', '1', '#', ' ', 'i', 't', Char.ofNat 39, 's'], ['?']] := by
    decide
  have changed : Relation.EqvGen Widened (linesOf '\n' "[S]\na = 1\n?\n".toList)
      (linesOf '\n' "[S]# s\n\n a = 1# it's\n?\n".toList) := by
    rw [lines, others]
    have afterHeader : Relation.EqvGen Widened
        [['[', 'S', ']'], ['a', ' ', '=', ' ', '1'], ['?']]
        [['[', 'S', ']', '#', ' ', 's'], ['a', ' ', '=', ' ', '1'], ['?']] :=
      .rel _ _ (.padded (.afterHeader (List.forall_mem_nil _) ['S', ']'] [' ', 's']) [] _)
    have emptyLine : Relation.EqvGen Widened
        [['[', 'S', ']', '#', ' ', 's'], ['a', ' ', '=', ' ', '1'], ['?']]
        [['[', 'S', ']', '#', ' ', 's'], [], ['a', ' ', '=', ' ', '1'], ['?']] :=
      .rel _ _ (.idle (by decide) [_] _)
    have atStart : Relation.EqvGen Widened
        [['[', 'S', ']', '#', ' ', 's'], [], ['a', ' ', '=', ' ', '1'], ['?']]
        [['[', 'S', ']', '#', ' ', 's'], [], [' ', 'a', ' ', '=', ' ', '1'], ['?']] :=
      have space : ∀ c ∈ [' '], isBlank c := List.forall_mem_singleton.mpr rfl
      .rel _ _ (.padded (.atStart space _) [_, _] _)
    have afterValue : Relation.EqvGen Widened
        [['[', 'S', ']', '#', ' ', 's'], [], [' ', 'a', ' ', '=', ' ', '1'], ['?']]
        [['[', 'S', ']', '#', ' ', 's'], [],
          [' ', 'a', ' ', '=', ' ', '1', '#', ' ', 'i', 't', Char.ofNat 39, 's'], ['?']] :=
      have start : Line.StartsKey [' ', 'a', ' '] := ⟨'a', rfl, by decide⟩
      have closed : Closed [' ', '1'] := .plain (by decide) (.plain (by decide) .nil)
      .rel _ _ (.padded (.afterValue start (by decide) closed _) [_, _] _)
    exact .trans _ _ _ afterHeader (.trans _ _ _ emptyLine (.trans _ _ _ atStart afterValue))
  refine ⟨changed, ?_⟩
  have first : (ofString "[S]\na = 1\n?\n" default).1 = .error (.malformedLine "" 3) := by decide
  have second : (ofString "[S]# s\n\n a = 1# it's\n?\n" default).1
      = .error (.malformedLine "" 4) := by
    decide
  obtain ⟨reader, read, -⟩ | ⟨number, more, same, stopped, again⟩ :=
    ofString_alike changed default default
  · cases first.symm.trans read
  · cases first.symm.trans stopped
    cases second.symm.trans again
    exact same

end Reader

end DetectorSim.Config
