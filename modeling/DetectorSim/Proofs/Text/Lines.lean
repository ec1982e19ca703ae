import Mathlib.Data.List.Basic
import DetectorSim.Text.Lines

/-!
# Lines and line feeds

No line holds a line feed, and lines that are each ended by one are read back as they
are.  An encoding that keeps line feeds apart from everything else can be applied
before or after the text is taken apart.
-/

set_option autoImplicit false

namespace DetectorSim.Text

theorem pieces_eq_splitOn {α : Type} [BEq α] (separator : α) (text : List α) :
    pieces separator text = text.splitOn separator := by
  induction text with
  | nil => rfl
  | cons c rest ih =>
    rw [pieces, List.splitOn_cons_eq_if_modifyHead, ih]
    congr 1
    split
    · next none => exact absurd none (List.splitOn_ne_nil _ _)
    · next split => rw [split]; rfl

variable {α β : Type} [BEq α] [LawfulBEq α] [BEq β] [LawfulBEq β]

theorem splitOn_cons_self (separator : α) (text : List α) :
    (separator :: text).splitOn separator = [] :: text.splitOn separator := by
  rw [List.splitOn_cons_eq_if_modifyHead, if_pos (beq_self_eq_true _)]

theorem splitOn_cons_of_ne {separator c : α} (other : c ≠ separator) (text : List α) :
    (c :: text).splitOn separator = (text.splitOn separator).modifyHead (c :: ·) := by
  rw [List.splitOn_cons_eq_if_modifyHead, if_neg (by simpa using other)]

theorem splitOn_append_of_notMem {separator : α} {line : List α} (clean : separator ∉ line)
    (text : List α) :
    (line ++ text).splitOn separator = (text.splitOn separator).modifyHead (line ++ ·) := by
  induction line with
  | nil => exact (congrFun List.modifyHead_id _).symm
  | cons c rest ih =>
    obtain ⟨other, clean⟩ := List.ne_and_not_mem_of_not_mem_cons clean
    rw [List.cons_append, splitOn_cons_of_ne other.symm, ih clean, List.modifyHead_modifyHead]
    rfl

theorem notMem_of_mem_splitOn {separator : α} {text piece : List α}
    (mem : piece ∈ text.splitOn separator) : separator ∉ piece := by
  induction text generalizing piece with
  | nil => simp_all
  | cons c rest ih =>
    by_cases same : c = separator
    · subst same
      rw [splitOn_cons_self] at mem
      obtain rfl | mem := List.mem_cons.mp mem
      · exact List.not_mem_nil
      · exact ih mem
    · rw [splitOn_cons_of_ne same] at mem
      obtain ⟨first, others, split⟩ :=
        List.exists_cons_of_ne_nil (List.splitOn_ne_nil separator rest)
      rw [split, List.modifyHead_cons] at mem
      obtain rfl | mem := List.mem_cons.mp mem
      · have := ih (split ▸ List.mem_cons_self)
        simp [this, Ne.symm same]
      · exact ih (split ▸ List.mem_cons_of_mem _ mem)

/-! ## Lines -/

theorem notMem_of_mem_linesOf {lineFeed : α} {text line : List α}
    (mem : line ∈ linesOf lineFeed text) : lineFeed ∉ line := by
  simp only [linesOf, pieces_eq_splitOn] at mem
  split at mem
  · exact notMem_of_mem_splitOn (List.dropLast_subset _ mem)
  · exact notMem_of_mem_splitOn mem

theorem linesOf_append_lineFeed {lineFeed : α} {line : List α} (clean : lineFeed ∉ line)
    (text : List α) :
    linesOf lineFeed (line ++ lineFeed :: text) = line :: linesOf lineFeed text := by
  simp only [linesOf, pieces_eq_splitOn, List.splitOn_append_cons_self_of_not_mem clean]
  rw [List.getLast?_cons_of_ne_nil (List.splitOn_ne_nil _ _)]
  split
  · rw [List.dropLast_cons_of_ne_nil (List.splitOn_ne_nil _ _)]
  · rfl

/-- Lines that are ended by line feeds are the lines of the text that they make up. -/
theorem linesOf_flatMap {lineFeed : α} {lines : List (List α)}
    (clean : ∀ line ∈ lines, lineFeed ∉ line) :
    linesOf lineFeed (lines.flatMap (· ++ [lineFeed])) = lines := by
  induction lines with
  | nil => rfl
  | cons line rest ih =>
    obtain ⟨first, others⟩ := List.forall_mem_cons.mp clean
    rw [List.flatMap_cons, List.append_assoc, List.singleton_append,
      linesOf_append_lineFeed first, ih others]

/-! ## Encoded texts -/

section

variable {f : α → List β} {lineFeed : α} {code : β}

theorem splitOn_flatMap (keeps : f lineFeed = [code]) (apart : ∀ c, c ≠ lineFeed → code ∉ f c)
    (text : List α) :
    (text.flatMap f).splitOn code = (text.splitOn lineFeed).map (List.flatMap f) := by
  induction text with
  | nil => rfl
  | cons c rest ih =>
    rw [List.flatMap_cons]
    by_cases same : c = lineFeed
    · subst same
      rw [keeps, List.singleton_append, splitOn_cons_self, splitOn_cons_self, ih]
      rfl
    · rw [splitOn_cons_of_ne same, splitOn_append_of_notMem (apart c same), ih]
      cases rest.splitOn lineFeed <;> rfl

/-- A text can be encoded before or after it is taken apart, if the code of the line
feed is its own and no character has an empty code. -/
theorem linesOf_flatMap_code (keeps : f lineFeed = [code])
    (apart : ∀ c, c ≠ lineFeed → code ∉ f c) (filled : ∀ c, f c ≠ []) (text : List α) :
    linesOf code (text.flatMap f) = (linesOf lineFeed text).map (List.flatMap f) := by
  simp only [linesOf, pieces_eq_splitOn, splitOn_flatMap keeps apart, List.getLast?_map]
  cases (text.splitOn lineFeed).getLast? with
  | none => rfl
  | some last =>
    cases last with
    | nil => exact (List.map_dropLast ..).symm
    | cons c rest =>
      rw [Option.map_some]
      split
      · next empty => simp [filled c] at empty
      · rfl

end

end DetectorSim.Text
