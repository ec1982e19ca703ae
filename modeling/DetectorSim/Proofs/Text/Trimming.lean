import Mathlib.Data.List.Basic
import Mathlib.Data.List.TakeWhile
import DetectorSim.Text.Blank

/-!
# What trimming leaves

Trimming leaves the one stretch of a text that has only blanks around it and none
at its ends.
-/

set_option autoImplicit false

namespace DetectorSim.Text

/-- A text without blanks at its ends. -/
structure Trimmed (text : List Char) : Prop where
  start : ∀ c ∈ text.head?, isBlank c = false
  finish : ∀ c ∈ text.getLast?, isBlank c = false

/-- A text is `core` between blanks. -/
structure Trims (text core : List Char) : Prop where
  split : ∃ before after, (∀ c ∈ before, isBlank c) ∧ (∀ c ∈ after, isBlank c) ∧
    text = before ++ core ++ after
  trimmed : Trimmed core

theorem trimStart_append {before : List Char} (blanks : ∀ c ∈ before, isBlank c)
    (text : List Char) : trimStart (before ++ text) = trimStart text :=
  List.dropWhile_append_of_pos blanks

theorem trimEnd_append {after : List Char} (blanks : ∀ c ∈ after, isBlank c)
    (text : List Char) : trimEnd (text ++ after) = trimEnd text := by
  unfold trimEnd
  rw [List.reverse_append,
    List.dropWhile_append_of_pos fun c mem => blanks c (List.mem_reverse.mp mem)]

theorem trimStart_of_head? {text : List Char} (start : ∀ c ∈ text.head?, isBlank c = false) :
    trimStart text = text := by
  cases text with
  | nil => rfl
  | cons c rest => exact List.dropWhile_cons_of_neg (by simp [start c rfl])

theorem trimEnd_of_getLast? {text : List Char}
    (finish : ∀ c ∈ text.getLast?, isBlank c = false) : trimEnd text = text := by
  have untouched : trimStart text.reverse = text.reverse :=
    trimStart_of_head? (by rwa [List.head?_reverse])
  unfold trimEnd
  exact (congrArg List.reverse untouched).trans text.reverse_reverse

/-- What `trimStart` drops is blank, and what it keeps does not start with a blank. -/
theorem trimStart_spec (text : List Char) :
    ∃ before, (∀ c ∈ before, isBlank c) ∧ text = before ++ trimStart text ∧
      ∀ c ∈ (trimStart text).head?, isBlank c = false := by
  refine ⟨text.takeWhile isBlank, fun c => List.mem_takeWhile_imp,
    List.takeWhile_append_dropWhile.symm, fun c first => ?_⟩
  have := List.head?_dropWhile_not isBlank text
  rw [show (text.dropWhile isBlank).head? = some c from first] at this
  simpa using this

theorem trimEnd_spec (text : List Char) :
    ∃ after, (∀ c ∈ after, isBlank c) ∧ text = trimEnd text ++ after ∧
      ∀ c ∈ (trimEnd text).getLast?, isBlank c = false := by
  obtain ⟨before, blanks, split, start⟩ := trimStart_spec text.reverse
  refine ⟨before.reverse, fun c mem => blanks c (List.mem_reverse.mp mem), ?_, ?_⟩
  · have := congrArg List.reverse split
    rwa [List.reverse_append, List.reverse_reverse] at this
  · intro c last
    exact start c (by rwa [trimEnd, List.getLast?_reverse] at last)

/-- A text whose first character that is not blank is `c` starts with `c` when it is
trimmed. -/
theorem exists_trim_eq_cons {before : List Char} (blanks : ∀ c ∈ before, isBlank c) {c : Char}
    (other : isBlank c = false) (rest : List Char) :
    ∃ last, trim (before ++ c :: rest) = c :: last := by
  have start : trimStart (c :: rest) = c :: rest :=
    List.dropWhile_cons_of_neg (by simp [other])
  unfold trim
  rw [trimStart_append blanks, start]
  obtain ⟨after, blanksAfter, split, -⟩ := trimEnd_spec (c :: rest)
  obtain ⟨none, same⟩ | ⟨last, kept, -⟩ := List.cons_eq_append_iff.mp split
  · have := blanksAfter c (same ▸ List.mem_cons_self)
    rw [other] at this
    cases this
  · exact ⟨last, kept⟩

/-- Only the text that `trim` returns can stand between the blanks. -/
theorem trims_iff {text core : List Char} : Trims text core ↔ trim text = core := by
  constructor
  · rintro ⟨⟨before, after, blanksBefore, blanksAfter, rfl⟩, start, finish⟩
    unfold trim
    rw [List.append_assoc, trimStart_append blanksBefore]
    cases core with
    | nil =>
      rw [List.nil_append, ← after.append_nil, trimStart_append blanksAfter]
      rfl
    | cons c rest =>
      have untouched : trimStart (c :: rest ++ after) = c :: rest ++ after :=
        trimStart_of_head? start
      rw [untouched, trimEnd_append blanksAfter, trimEnd_of_getLast? finish]
  · rintro rfl
    obtain ⟨before, blanksBefore, splitBefore, start⟩ := trimStart_spec text
    obtain ⟨after, blanksAfter, splitAfter, finish⟩ := trimEnd_spec (trimStart text)
    refine ⟨⟨before, after, blanksBefore, blanksAfter, ?_⟩, fun c first => start c ?_, finish⟩
    · rw [List.append_assoc]
      exact splitBefore.trans (congrArg (before ++ ·) splitAfter)
    · rw [splitAfter]
      exact List.mem_head?_append_of_mem_head? first

theorem trims_trim (text : List Char) : Trims text (trim text) :=
  trims_iff.mpr rfl

theorem trim_blanks_append {before : List Char} (blanks : ∀ c ∈ before, isBlank c)
    (text : List Char) : trim (before ++ text) = trim text := by
  rw [trim, trimStart_append blanks, ← trim]

theorem trim_append_blanks {after : List Char} (blanks : ∀ c ∈ after, isBlank c)
    (text : List Char) : trim (text ++ after) = trim text := by
  obtain ⟨⟨first, last, space, spaceLast, split⟩, trimmed⟩ := trims_trim text
  refine trims_iff.mp ⟨⟨first, last ++ after, space, fun c mem => ?_, ?_⟩, trimmed⟩
  · exact (List.mem_append.mp mem).elim (spaceLast c) (blanks c)
  · exact (congrArg (· ++ after) split).trans (List.append_assoc _ _ _)

/-- Trimming at the end does not go beyond a character that is not blank. -/
theorem trimEnd_append_cons {c : Char} (other : isBlank c = false) (first rest : List Char) :
    trimEnd (first ++ c :: rest) = first ++ c :: trimEnd rest := by
  obtain ⟨after, blanks, split, last⟩ := trimEnd_spec rest
  have whole : first ++ c :: rest = first ++ c :: trimEnd rest ++ after := by
    rw [List.append_assoc, List.cons_append, ← split]
  rw [whole, trimEnd_append blanks]
  refine trimEnd_of_getLast? fun d finish => ?_
  rw [List.getLast?_append_of_ne_nil _ (List.cons_ne_nil _ _), List.getLast?_cons] at finish
  obtain rfl := Option.some.inj finish
  cases held : (trimEnd rest).getLast? with
  | none => exact other
  | some d => exact last d held

/-- The first character that is not blank is what a trimmed text starts with. -/
theorem head?_trim (text : List Char) : (trim text).head? = (trimStart text).head? := by
  obtain ⟨-, -, -, start⟩ := trimStart_spec text
  rw [trim]
  cases held : trimStart text with
  | nil => rfl
  | cons c rest =>
    have solid : isBlank c = false := start c (by rw [held]; rfl)
    have kept : trimEnd (c :: rest) = c :: trimEnd rest := trimEnd_append_cons solid [] rest
    rw [kept, List.head?_cons, List.head?_cons]

theorem Trimmed.trims {text : List Char} (trimmed : Trimmed text) : Trims text text :=
  ⟨⟨[], [], nofun, nofun, by simp⟩, trimmed⟩

/-- What stands between two texts does not matter for the blanks at the ends. -/
theorem Trimmed.enclose {first last : List Char} (trimmedFirst : Trimmed first)
    (trimmedLast : Trimmed last) (someFirst : first ≠ []) (someLast : last ≠ [])
    (text : List Char) : Trimmed (first ++ text ++ last) := by
  refine ⟨fun c mem => trimmedFirst.start c ?_, fun c mem => trimmedLast.finish c ?_⟩
  · rwa [List.append_assoc, List.head?_append_of_ne_nil _ someFirst] at mem
  · rwa [List.getLast?_append_of_ne_nil _ someLast] at mem

theorem trimmed_singleton {c : Char} (other : isBlank c = false) : Trimmed [c] := by
  refine ⟨fun d same => ?_, fun d same => ?_⟩
  all_goals
    obtain rfl := Option.some.inj same
    exact other

end DetectorSim.Text
