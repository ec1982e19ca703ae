import Mathlib.Data.List.Basic
import DetectorSim.Config.Line
import DetectorSim.Proofs.Text.Comment

/-!
# The grammar of a line

The forms that a line can have, as a relation that does not read anything: a form says
which stretches a line is made of.  Reading a line agrees with it in both directions, so
a line has at most one meaning, and a line that has none is malformed.
-/

set_option autoImplicit false

namespace DetectorSim.Config.Line

open DetectorSim.Text

/-- What a line without blanks at its ends says. -/
inductive Means : List Char → Line → Prop where
  | empty : Means [] .blank
  | comment (text : List Char) : Means ('#' :: text) .blank
  /-- A name in brackets, followed by nothing or, after blanks, by a comment. -/
  | header {name blanks rest : List Char} (word : ∀ c ∈ name, isNameChar c)
      (space : ∀ c ∈ blanks, isBlank c) (ends : rest = [] ∨ ∃ text, rest = '#' :: text) :
      Means ('[' :: (name ++ ']' :: (blanks ++ rest))) (.header (String.ofList name))
  /-- A key, the first equals sign, and a value that something is left of without its
  comment. -/
  | entry {before after key uncut value : List Char} (letter : ∃ c ∈ before.head?, c.isAlpha)
      (first : '=' ∉ before) (outer : Trims before key) (word : ∀ c ∈ key, isNameChar c)
      (cut : Uncommented after uncut) (inner : Trims uncut value) (filled : value ≠ []) :
      Means (before ++ '=' :: after) (.entry (String.ofList key) (String.ofList value))

/-- What a line says. -/
def Reads (text : List Char) (line : Line) : Prop :=
  ∃ core, Trims text core ∧ Means core line

/-- The line is of one of the forms. -/
def Readable (text : List Char) : Prop :=
  ∃ line, Reads text line

/-! ## Characters of names -/

theorem toNat_of_isAlphanum {c : Char} (word : c.isAlphanum) :
    (65 ≤ c.toNat ∧ c.toNat ≤ 90 ∨ 97 ≤ c.toNat ∧ c.toNat ≤ 122) ∨
      48 ≤ c.toNat ∧ c.toNat ≤ 57 := by
  have ranges : (decide ('A'.val ≤ c.val ∧ c.val ≤ 'Z'.val) ||
      (decide ('a'.val ≤ c.val) && decide (c.val ≤ 'z'.val)) ||
      (decide ('0'.val ≤ c.val) && decide (c.val ≤ '9'.val))) = true := word
  simp only [Bool.or_eq_true, Bool.and_eq_true, decide_eq_true_eq, UInt32.le_iff_toNat_le]
    at ranges
  exact ranges

theorem isBlank_of_isNameChar {c : Char} (word : isNameChar c) : isBlank c = false := by
  obtain word | rfl : c.isAlphanum ∨ c = '_' := by simpa [isNameChar] using word
  · have ranges := toNat_of_isAlphanum word
    simp only [isBlank, Bool.or_eq_false_iff, Bool.and_eq_false_iff,
      decide_eq_false_iff_not, beq_eq_false_iff_ne]
    omega
  · decide

/-! ## Headers -/

theorem endsLine_iff {text : List Char} :
    endsLine text ↔ ∃ blanks rest, (∀ c ∈ blanks, isBlank c) ∧ text = blanks ++ rest ∧
      (rest = [] ∨ ∃ comment, rest = '#' :: comment) := by
  unfold endsLine
  constructor
  · obtain ⟨⟨before, after, blanks, blanksAfter, split⟩, -⟩ := trims_trim text
    intro ends
    split at ends
    · next none =>
      rw [none, List.append_nil] at split
      exact ⟨text, [], by simpa [split, or_imp, forall_and] using ⟨blanks, blanksAfter⟩, by simp,
        .inl rfl⟩
    · next c rest some =>
      obtain rfl := beq_iff_eq.mp ends
      rw [some, List.append_assoc] at split
      exact ⟨before, _, blanks, split, .inr ⟨_, rfl⟩⟩
  · rintro ⟨blanks, rest, space, rfl, rfl | ⟨comment, rfl⟩⟩
    · have : trim (blanks ++ []) = [] :=
        trims_iff.mp ⟨⟨blanks, [], space, nofun, by simp⟩, nofun, nofun⟩
      rw [this]
    · obtain ⟨last, trimmed⟩ := exists_trim_eq_cons space (c := '#') (by decide) comment
      rw [trimmed]
      rfl

theorem means_readHeader {text : List Char} (good : readHeader text ≠ .malformed) :
    Means ('[' :: text) (readHeader text) := by
  unfold readHeader at good ⊢
  split at good
  · next rest split =>
    split at good
    · next ends =>
      obtain ⟨blanks, last, space, rfl, tail⟩ := endsLine_iff.mp ends
      have whole : text = text.takeWhile isNameChar ++ ']' :: (blanks ++ last) := by
        rw [← split, List.takeWhile_append_dropWhile]
      rw [if_pos ends]
      have word : ∀ c ∈ text.takeWhile isNameChar, isNameChar c :=
        fun c => List.mem_takeWhile_imp
      have := Means.header word space tail
      rwa [← whole] at this
    · exact absurd rfl good
  · exact absurd rfl good

theorem readHeader_eq {name blanks rest : List Char} (word : ∀ c ∈ name, isNameChar c)
    (space : ∀ c ∈ blanks, isBlank c) (ends : rest = [] ∨ ∃ text, rest = '#' :: text) :
    readHeader (name ++ ']' :: (blanks ++ rest)) = .header (String.ofList name) := by
  have stop : ¬ isNameChar ']' := by decide
  have tail : endsLine (blanks ++ rest) := endsLine_iff.mpr ⟨blanks, rest, space, rfl, ends⟩
  unfold readHeader
  rw [List.dropWhile_append_of_pos word, List.dropWhile_cons_of_neg stop,
    List.takeWhile_append_of_pos word, List.takeWhile_cons_of_neg stop]
  simp only [if_pos tail, List.append_nil]

/-! ## Entries -/

theorem means_readEntry {text : List Char} (letter : ∃ c ∈ text.head?, c.isAlpha)
    (good : readEntry text ≠ .malformed) : Means text (readEntry text) := by
  unfold readEntry at good ⊢
  split at good
  · exact absurd rfl good
  · next c rest split =>
    have sign : c = '=' := by
      have := List.head?_dropWhile_not (· != '=') text
      rw [split] at this
      simpa using this
    subst sign
    have whole : text = text.takeWhile (· != '=') ++ '=' :: rest := by
      rw [← split, List.takeWhile_append_dropWhile]
    simp only at good ⊢
    split at good
    · next fine =>
      rw [if_pos fine]
      simp only [Bool.and_eq_true, List.all_eq_true, Bool.not_eq_true',
        List.isEmpty_eq_false_iff] at fine
      have start : ∃ c ∈ (text.takeWhile (· != '=')).head?, c.isAlpha := by
        obtain ⟨c, first, alpha⟩ := letter
        have other : c ≠ '=' := by
          rintro rfl
          exact absurd alpha (by decide)
        refine ⟨c, ?_, alpha⟩
        rw [List.head?_takeWhile, Option.mem_def.mp first]
        simpa using other
      have := Means.entry start
        (fun mem => by simpa using List.mem_takeWhile_imp mem) (trims_trim _) fine.1
        (uncommented_iff.mpr rfl) (trims_trim (cutComment rest)) fine.2
      rwa [← whole] at this
    · exact absurd rfl good

/-- What a key and a value make. -/
def ofPair (key value : List Char) : Line :=
  if key.all isNameChar && !value.isEmpty then
    .entry (String.ofList key) (String.ofList value)
  else .malformed

/-- A key and a value are read from what stands on the two sides of the first equals
sign. -/
theorem readEntry_append {before : List Char} (first : '=' ∉ before) (after : List Char) :
    readEntry (before ++ '=' :: after) = ofPair (trim before) (trim (cutComment after)) := by
  have goes : ∀ c ∈ before, (c != '=') = true := fun c mem => by
    simpa using fun same : c = '=' => first (same ▸ mem)
  unfold readEntry
  rw [List.dropWhile_append_of_pos goes, List.dropWhile_cons_of_neg (by simp),
    List.takeWhile_append_of_pos goes, List.takeWhile_cons_of_neg (by simp), List.append_nil,
    ofPair]

theorem readEntry_eq {before after key uncut value : List Char} (first : '=' ∉ before)
    (outer : Trims before key) (word : ∀ c ∈ key, isNameChar c) (cut : Uncommented after uncut)
    (inner : Trims uncut value) (filled : value ≠ []) :
    readEntry (before ++ '=' :: after) =
      .entry (String.ofList key) (String.ofList value) := by
  rw [readEntry_append first, trims_iff.mp outer, uncommented_iff.mp cut, trims_iff.mp inner,
    ofPair, if_pos (by simpa [filled] using word)]

/-! ## Lines -/

/-- A line that starts with a letter is read as a key and its value. -/
theorem readTrimmed_of_isAlpha {c : Char} (alpha : c.isAlpha) (rest : List Char) :
    readTrimmed (c :: rest) = readEntry (c :: rest) := by
  unfold readTrimmed
  split
  · next empty => cases empty
  · next same =>
    obtain rfl := (List.cons.inj same).1
    exact absurd alpha (by decide)
  · next same =>
    obtain rfl := (List.cons.inj same).1
    exact absurd alpha (by decide)
  · next same =>
    obtain ⟨rfl, rfl⟩ := List.cons.inj same
    exact if_pos alpha

/-- Reading a line makes nothing up. -/
theorem means_readTrimmed {text : List Char} (good : readTrimmed text ≠ .malformed) :
    Means text (readTrimmed text) := by
  unfold readTrimmed at good ⊢
  split at good
  · exact .empty
  · exact .comment _
  · exact means_readHeader good
  · next c rest _ _ =>
    split at good
    · next alpha =>
      rw [if_pos alpha]
      exact means_readEntry ⟨c, rfl, alpha⟩ good
    · exact absurd rfl good

/-- Reading a line misses nothing. -/
theorem Means.readTrimmed_eq {text : List Char} {line : Line} (means : Means text line) :
    readTrimmed text = line := by
  cases means with
  | empty => rfl
  | comment => rfl
  | header word space ends => exact readHeader_eq word space ends
  | @entry before after key uncut value letter first outer word cut inner filled =>
    obtain ⟨c, start, alpha⟩ := letter
    cases before with
    | nil => cases start
    | cons d rest =>
      obtain rfl := Option.some.inj start
      exact (readTrimmed_of_isAlpha alpha _).trans
        (readEntry_eq first outer word cut inner filled)

theorem Means.ne_malformed {text : List Char} {line : Line} (means : Means text line) :
    line ≠ .malformed := by
  cases means <;> nofun

/-- A line has a meaning exactly if it is read as something, and then that is what it
means. -/
theorem reads_iff {text : List Char} {line : Line} :
    Reads text line ↔ read text = line ∧ line ≠ .malformed := by
  constructor
  · rintro ⟨core, trims, means⟩
    refine ⟨?_, means.ne_malformed⟩
    rw [read, trims_iff.mp trims, means.readTrimmed_eq]
  · rintro ⟨rfl, good⟩
    exact ⟨trim text, trims_trim text, means_readTrimmed good⟩

theorem Reads.unique {text : List Char} {one other : Line} (reads : Reads text one)
    (again : Reads text other) : one = other :=
  (reads_iff.mp reads).1.symm.trans (reads_iff.mp again).1

theorem readable_iff {text : List Char} : Readable text ↔ read text ≠ .malformed := by
  simp only [Readable, reads_iff]
  exact ⟨fun ⟨_, same, good⟩ => same ▸ good, fun good => ⟨_, rfl, good⟩⟩

end DetectorSim.Config.Line
