import Mathlib.Data.List.Basic
import DetectorSim.Config.Value
import DetectorSim.Proofs.Config.Layout
import DetectorSim.Proofs.Config.Placement

/-!
# Quoted lists

A list is written with each element between two quotes, so that nothing in an element is
taken for a comment, a separator or the other quote.  A comment is cut and a list is
taken apart by two walks over the same text; both go through a quoted stretch as a whole.
-/

set_option autoImplicit false

namespace DetectorSim

namespace Text

/-- Elements that are written between quotes, with commas, spaces and tabs between one
and the next. -/
inductive Lists : List (List Char) → List Char → Prop
  | last {quote : Char} {element : List Char} (opens : isQuote quote) (free : quote ∉ element) :
      Lists [element] (quote :: (element ++ [quote]))
  | more {quote : Char} {element gap written : List Char} {elements : List (List Char)}
      (opens : isQuote quote) (free : quote ∉ element) (apart : gap ≠ [])
      (separators : ∀ c ∈ gap, c = ',' ∨ c = ' ' ∨ c = '\t') (others : Lists elements written) :
      Lists (element :: elements) (quote :: (element ++ quote :: (gap ++ written)))

/-- What separates elements neither opens a stretch nor starts a comment. -/
theorem plain_of_separator {c : Char} (separator : c = ',' ∨ c = ' ' ∨ c = '\t') :
    (isQuote c = false ∧ c ≠ '#') ∧ isSeparator c := by
  rcases separator with rfl | rfl | rfl <;> decide

theorem isBlank_of_isQuote {c : Char} (quote : isQuote c) : isBlank c = false := by
  by_contra blank
  rw [Bool.not_eq_false] at blank
  rw [isQuote_of_isBlank blank] at quote
  cases quote

theorem closeWord_reverse {element : List Char} (filled : element ≠ []) :
    closeWord element.reverse = [element] := by
  rw [closeWord, if_neg (by simpa using filled), List.reverse_reverse]

/-- A walk goes through a quoted stretch as a whole. -/
theorem elementsFrom_quoted {quote : Char} {inside : List Char} (free : quote ∉ inside)
    (word text : List Char) :
    elementsFrom (some quote) word (inside ++ quote :: text)
      = elementsFrom none (inside.reverse ++ word) text := by
  induction inside generalizing word with
  | nil => rw [List.nil_append, elementsFrom, if_pos (by simp)]; rfl
  | cons c rest ih =>
    obtain ⟨other, others⟩ := List.ne_and_not_mem_of_not_mem_cons free
    rw [List.cons_append, elementsFrom, if_neg (by simpa using other.symm), ih others,
      List.reverse_cons, List.append_assoc, List.singleton_append]

/-- What stands between two elements ends the first one. -/
theorem elementsFrom_gap {gap : List Char} (apart : gap ≠ [])
    (separators : ∀ c ∈ gap, c = ',' ∨ c = ' ' ∨ c = '\t') (word text : List Char) :
    elementsFrom none word (gap ++ text) = closeWord word ++ elementsFrom none [] text := by
  induction gap generalizing word with
  | nil => exact absurd rfl apart
  | cons c rest ih =>
    obtain ⟨separator, others⟩ := List.forall_mem_cons.mp separators
    obtain ⟨⟨notQuote, -⟩, separates⟩ := plain_of_separator separator
    have closes : elementsFrom none word (c :: rest ++ text)
        = closeWord word ++ elementsFrom none [] (rest ++ text) := by
      rw [List.cons_append, elementsFrom, if_neg (by simp [notQuote]), if_pos separates]
    rw [closes]
    cases rest with
    | nil => rfl
    | cons d more => rw [ih (List.cons_ne_nil d more) others]; rfl

namespace Lists

variable {elements : List (List Char)} {written : List Char}

theorem exists_of_free {elements : List (List Char)} (filled : elements ≠ [])
    (free : ∀ element ∈ elements, ∃ quote, isQuote quote ∧ quote ∉ element) :
    ∃ written, Lists elements written := by
  induction elements with
  | nil => exact absurd rfl filled
  | cons element rest ih =>
    obtain ⟨⟨quote, opens, absent⟩, others⟩ := List.forall_mem_cons.mp free
    cases rest with
    | nil => exact ⟨_, .last opens absent⟩
    | cons next later =>
      obtain ⟨written, lists⟩ := ih (List.cons_ne_nil _ _) others
      exact ⟨_, .more opens absent (List.cons_ne_nil ',' []) (by simp) lists⟩

/-- A comment after a list is cut, and nothing of the list. -/
theorem cutComment_append (lists : Lists elements written) (text : List Char) :
    cutComment (written ++ text) = written ++ cutComment text := by
  induction lists with
  | last opens free =>
    rw [List.cons_append, List.append_assoc, List.singleton_append, cutComment_quoted opens free,
      List.cons_append, List.append_assoc, List.singleton_append]
  | @more quote element gap written elements opens free apart separators others ih =>
    have plain : ∀ c ∈ gap, isQuote c = false ∧ c ≠ '#' := fun c mem =>
      (plain_of_separator (separators c mem)).1
    have regroup (last : List Char) :
        quote :: (element ++ quote :: (gap ++ written)) ++ last
          = quote :: (element ++ quote :: (gap ++ (written ++ last))) := by
      simp
    rw [regroup, regroup, cutComment_quoted opens free, cutComment_plain_append plain, ih]

/-- A list starts and ends with quotes. -/
theorem trimmed (lists : Lists elements written) : Trimmed written ∧ written ≠ [] := by
  refine ⟨?_, by cases lists <;> nofun⟩
  induction lists with
  | @last quote element opens free =>
    have edge : Trimmed [quote] := trimmed_singleton (isBlank_of_isQuote opens)
    have whole := edge.enclose edge (List.cons_ne_nil _ _) (List.cons_ne_nil _ _) element
    rwa [List.append_assoc] at whole
  | @more quote element gap written elements opens free apart separators others ih =>
    have edge : Trimmed [quote] := trimmed_singleton (isBlank_of_isQuote opens)
    have some : written ≠ [] := by cases others <;> nofun
    have whole := edge.enclose ih (List.cons_ne_nil _ _) some (element ++ quote :: gap)
    rwa [List.append_assoc, List.append_assoc, List.cons_append] at whole

theorem oneLine (lists : Lists elements written) (clean : ∀ element ∈ elements, '\n' ∉ element) :
    '\n' ∉ written := by
  have other {quote : Char} (opens : isQuote quote) : '\n' ≠ quote := by
    rintro rfl
    exact absurd opens (by decide)
  induction lists with
  | last opens free => simpa [other opens] using clean
  | @more quote element gap written elements opens free apart separators others ih =>
    obtain ⟨first, rest⟩ := List.forall_mem_cons.mp clean
    have none : '\n' ∉ gap := fun mem => absurd (separators _ mem) (by decide)
    simp [other opens, first, none, ih rest]

/-- A list is taken apart into the elements that it was written for. -/
theorem elements_eq (lists : Lists elements written) (solid : ∀ element ∈ elements, element ≠ []) :
    Text.elements written = elements := by
  rw [Text.elements]
  induction lists with
  | last opens free =>
    rw [elementsFrom, if_pos opens, elementsFrom_quoted free, List.append_nil, elementsFrom,
      closeWord_reverse (solid _ List.mem_cons_self)]
  | more opens free apart separators others ih =>
    obtain ⟨filled, rest⟩ := List.forall_mem_cons.mp solid
    rw [elementsFrom, if_pos opens, elementsFrom_quoted free, List.append_nil,
      elementsFrom_gap apart separators, closeWord_reverse filled, ih rest, List.singleton_append]

end Lists

end Text

namespace Config

open Text

/-! ## Lists in a configuration -/

/-- A line that sets a key to a text, with blanks around both and maybe a comment. -/
inductive Assigns (key : String) (written : List Char) : List Char → Prop
  | intro {start before after finish comment : List Char}
      (space : ∀ c ∈ start ++ before ++ after ++ finish, isBlank c)
      (ends : comment = [] ∨ ∃ text, comment = '#' :: text) :
      Assigns key written
        (start ++ key.toList ++ before ++ '=' :: (after ++ (written ++ (finish ++ comment))))

theorem readAll_string (s : Section) (key : String) (texts : List (List Char)) :
    s.readAll key .string texts = .ok (texts.map String.ofList) := by
  induction texts with
  | nil => rfl
  | cons text rest ih => rw [Section.readAll, ih]; rfl

/-- Elements that can be written between quotes. -/
structure Quotable (elements : List String) : Prop where
  filled : elements ≠ []
  solid : ∀ element ∈ elements, element ≠ ""
  oneLine : ∀ element ∈ elements, '\n' ∉ element.toList
  /-- No element holds both kinds of quotes. -/
  free : ∀ element ∈ elements, '"' ∉ element.toList ∨ Char.ofNat 39 ∉ element.toList

theorem Assigns.read_eq {key : String} {written line : List Char} {elements : List (List Char)}
    (assigns : Assigns key written line) (isKey : IsKey key) (lists : Lists elements written) :
    Line.read line = .entry key (String.ofList written) := by
  obtain @⟨start, before, after, finish, comment, space, ends⟩ := assigns
  simp only [List.forall_mem_append] at space
  obtain ⟨⟨⟨spaceStart, spaceBefore⟩, spaceAfter⟩, spaceFinish⟩ := space
  have opened : trimStart (start ++ key.toList ++ before) = key.toList ++ before := by
    rw [List.append_assoc, trimStart_append spaceStart]
    refine trimStart_of_head? fun c head => isKey.trimmed.start c ?_
    rwa [List.head?_append_of_ne_nil _ isKey.ne_nil] at head
  have starts : Line.StartsKey (start ++ key.toList ++ before) := by
    rw [Line.StartsKey, opened, List.head?_append_of_ne_nil _ isKey.ne_nil]
    exact isKey.letter
  have first : '=' ∉ start ++ key.toList ++ before := by
    simp only [List.mem_append, not_or]
    exact ⟨⟨fun mem => absurd (spaceStart _ mem) (by decide),
      fun mem => absurd (isKey.word _ mem) (by decide)⟩,
      fun mem => absurd (spaceBefore _ mem) (by decide)⟩
  have cut : cutComment comment = [] := by
    obtain rfl | ⟨text, rfl⟩ := ends <;> rfl
  rw [Line.read_append_sign starts first, trim_append_blanks spaceBefore,
    trim_blanks_append spaceStart, trims_iff.mp isKey.trimmed.trims,
    cutComment_blanks_append spaceAfter, lists.cutComment_append,
    cutComment_blanks_append spaceFinish, cut, List.append_nil, trim_blanks_append spaceAfter,
    trim_append_blanks spaceFinish, trims_iff.mp lists.trimmed.1.trims, Line.ofPair,
    if_pos (by simpa [lists.trimmed.2] using isKey.word), String.ofList_toList]

theorem getArray_eq {s : Section} {key : String} {elements : List String} {written : List Char}
    (lists : Lists (elements.map String.toList) written)
    (solid : ∀ element ∈ elements, element ≠ "")
    (held : s.text? key = some (String.ofList written)) :
    s.getArray key .string = .ok elements := by
  have apart : Text.elements written = elements.map String.toList :=
    lists.elements_eq (by simpa using solid)
  rw [Section.getArray, Section.text, held]
  have back : (elements.map String.toList).map String.ofList = elements := by
    simp [Function.comp_def]
  simp only [String.toList_ofList, apart, readAll_string, back]

/-- **Quoted lists.**  Strings that do not hold both kinds of quotes can be written as a
list, and however they are, they come back in order from the section with the line. -/
theorem getArray_of_lists {elements : List String} (quotable : Quotable elements) :
    (∃ written, Lists (elements.map String.toList) written) ∧
      ∀ written, Lists (elements.map String.toList) written →
        '\n' ∉ written ∧
        ∀ (key text : String) (earlier later : List (List Char)) (line : List Char)
            (reader : Reader) (file : Option String),
          IsKey key → Assigns key written line → LastSetIn text key earlier line later →
          ∃ s rest, reader.add (.ofBytes text.toUTF8) file = (.ok (), ⟨reader.sections
              ++ (closedAmong (sectionsOf file (earlier.map Line.read)) ++ s :: rest)⟩) ∧
            s.name = openName earlier ∧ s.getArray key .string = .ok elements := by
  refine ⟨Lists.exists_of_free (by simpa using quotable.filled) ?_, fun written lists => ⟨?_, ?_⟩⟩
  · simp only [List.forall_mem_map]
    intro element mem
    obtain free | free := quotable.free element mem
    · exact ⟨'"', rfl, free⟩
    · exact ⟨Char.ofNat 39, rfl, free⟩
  · exact lists.oneLine (by simpa using quotable.oneLine)
  · intro key text earlier later line reader file isKey assigns set
    obtain ⟨s, rest, added, name, held⟩ :=
      set.exists_text? (assigns.read_eq isKey lists) reader file
    exact ⟨s, rest, added, name, getArray_eq lists quotable.solid held⟩

/-- A comment sign, separators and the other quote in elements, before a comment. -/
theorem getArray_of_lists_mixed :
    Quotable ["# ,", "it's"] ∧
      ∃ s, Reader.empty.add (.ofBytes "[S]\nk = '# ,', \"it's\" # c\n".toUTF8) none
          = (.ok (), ⟨[s]⟩) ∧
        s.name = "S" ∧ s.getArray "k" .string = .ok ["# ,", "it's"] := by
  have quotable : Quotable ["# ,", "it's"] :=
    ⟨List.cons_ne_nil _ _, by decide, by decide, by decide⟩
  have lists : Lists (["# ,", "it's"].map String.toList) "'# ,', \"it's\"".toList := by
    have shape : "'# ,', \"it's\"".toList = Char.ofNat 39 :: ("# ,".toList ++ Char.ofNat 39
        :: ([',', ' '] ++ ('"' :: ("it's".toList ++ ['"'])))) := by
      decide
    rw [shape]
    exact .more (by decide) (by decide) (by decide) (by simp) (.last (by decide) (by decide))
  have assigns : Assigns "k" "'# ,', \"it's\"".toList "k = '# ,', \"it's\" # c".toList := by
    have shape : "k = '# ,', \"it's\" # c".toList = [] ++ "k".toList ++ [' '] ++ '='
        :: ([' '] ++ ("'# ,', \"it's\"".toList ++ ([' '] ++ ['#', ' ', 'c']))) := by
      decide
    rw [shape]
    exact .intro (List.all_eq_true.mp (by decide)) (.inr ⟨_, rfl⟩)
  have set : LastSetIn "[S]\nk = '# ,', \"it's\" # c\n" "k" ["[S]".toList]
      "k = '# ,', \"it's\" # c".toList [] :=
    ⟨by decide, by simp only [Line.readable_iff]; decide, nofun⟩
  have isKey : IsKey "k" :=
    ⟨⟨'k', by decide, by decide⟩, List.all_eq_true.mp (by decide)⟩
  obtain ⟨s, rest, added, name, array⟩ := ((getArray_of_lists quotable).2 _ lists).2 _ _ _ _ _
    Reader.empty none isKey assigns set
  have before : closedAmong (sectionsOf none (["[S]".toList].map Line.read)) = [] := by decide
  have single : (Reader.empty.add (.ofString "[S]\nk = '# ,', \"it's\" # c\n")
      none).2.sections.length = 1 := by
    decide
  rw [before] at added
  rw [← Source.ofBytes_toUTF8, added] at single
  obtain rfl : rest = [] := by simpa [Reader.empty] using single
  exact ⟨quotable, s, added, name.trans (by decide), array⟩

end Config

end DetectorSim
