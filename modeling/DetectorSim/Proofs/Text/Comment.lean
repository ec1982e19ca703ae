import Mathlib.Data.List.Basic
import DetectorSim.Proofs.Text.Trimming
import DetectorSim.Text.Quoted

/-!
# What a comment leaves

A `#` starts a comment unless it is quoted.  A quote that is never closed quotes the
rest of its text, so a `#` stands outside of quotes exactly if in the text before it
every quote is closed.
-/

set_option autoImplicit false

namespace DetectorSim.Text

/-- Every quote that opens a stretch is followed by one that closes it. -/
inductive Closed : List Char → Prop where
  | nil : Closed []
  | plain {c : Char} {rest : List Char} (notQuote : isQuote c = false) (closed : Closed rest) :
      Closed (c :: rest)
  | quoted {quote : Char} {inside rest : List Char} (opens : isQuote quote)
      (first : quote ∉ inside) (closed : Closed rest) :
      Closed (quote :: (inside ++ quote :: rest))

/-- Every `#` is quoted. -/
def Bare (text : List Char) : Prop :=
  ∀ before after, text = before ++ '#' :: after → ¬ Closed before

/-- A text is `core`, or `core` and a comment. -/
structure Uncommented (text core : List Char) : Prop where
  split : text = core ∨ ∃ comment, text = core ++ '#' :: comment ∧ Closed core
  bare : Bare core

/-! ## Quoted stretches -/

theorem foldl_nextStretch_of_notMem {quote : Char} {inside : List Char}
    (absent : quote ∉ inside) : inside.foldl nextStretch (some quote) = some quote := by
  induction inside with
  | nil => rfl
  | cons c rest ih =>
    have other : c ≠ quote := fun same => absent (same ▸ List.mem_cons_self)
    rw [List.foldl_cons, nextStretch, if_neg (by simpa using other)]
    exact ih fun mem => absent (List.mem_cons_of_mem _ mem)

theorem Closed.foldl_nextStretch {text : List Char} (closed : Closed text) :
    text.foldl nextStretch none = none := by
  induction closed with
  | nil => rfl
  | plain notQuote _ ih => rwa [List.foldl_cons, nextStretch, if_neg (by simp [notQuote])]
  | quoted opens first _ ih =>
    rw [List.foldl_cons, nextStretch, if_pos opens, List.foldl_append,
      foldl_nextStretch_of_notMem first, List.foldl_cons, nextStretch, if_pos (by simp)]
    exact ih

/-- What a scan that ends outside of quotes has met, from outside and from inside of a
stretch. -/
theorem closed_of_foldl_nextStretch (text : List Char) :
    (text.foldl nextStretch none = none → Closed text) ∧
      ∀ quote, text.foldl nextStretch (some quote) = none →
        ∃ inside rest, text = inside ++ quote :: rest ∧ quote ∉ inside ∧ Closed rest := by
  induction text with
  | nil => exact ⟨fun _ => .nil, nofun⟩
  | cons c rest ih =>
    simp only [List.foldl_cons, nextStretch]
    refine ⟨fun outside => ?_, fun quote outside => ?_⟩
    · split at outside
      · next opens =>
        obtain ⟨inside, after, rfl, first, closed⟩ := ih.2 c outside
        exact .quoted opens first closed
      · next plain => exact .plain (by simpa using plain) (ih.1 outside)
    · split at outside
      · next closes =>
        obtain rfl := beq_iff_eq.mp closes
        exact ⟨[], rest, rfl, List.not_mem_nil, ih.1 outside⟩
      · next other =>
        obtain ⟨inside, after, rfl, first, closed⟩ := ih.2 quote outside
        refine ⟨c :: inside, after, rfl, fun mem => ?_, closed⟩
        obtain rfl | mem := List.mem_cons.mp mem
        · exact other (beq_self_eq_true _)
        · exact first mem

/-- A scan ends outside of quotes exactly if every quote is closed. -/
theorem closed_iff {text : List Char} :
    Closed text ↔ text.foldl nextStretch none = none :=
  ⟨Closed.foldl_nextStretch, (closed_of_foldl_nextStretch text).1⟩

theorem closed_append_iff {before : List Char} (plain : ∀ c ∈ before, isQuote c = false)
    {text : List Char} : Closed (before ++ text) ↔ Closed text := by
  induction before with
  | nil => rfl
  | cons c rest ih =>
    rw [← ih fun c mem => plain c (List.mem_cons_of_mem _ mem), closed_iff, closed_iff,
      List.cons_append, List.foldl_cons, nextStretch, if_neg (by simp [plain c List.mem_cons_self])]

/-! ## Quoted signs -/

theorem isQuote_of_isBlank {c : Char} (blank : isBlank c) : isQuote c = false := by
  by_contra quote
  simp only [isQuote, Bool.not_eq_false, Bool.or_eq_true, beq_iff_eq] at quote
  rcases quote with rfl | rfl <;> exact absurd blank (by decide)

theorem ne_sign_of_isBlank {c : Char} (blank : isBlank c) : c ≠ '#' := by
  rintro rfl
  exact absurd blank (by decide)

/-- A stretch of a text in which every `#` is quoted is such a text too, if only blanks
stand before it. -/
theorem Bare.of_append {before text after : List Char} (bare : Bare (before ++ text ++ after))
    (blanks : ∀ c ∈ before, isBlank c) : Bare text := by
  rintro first last rfl closed
  refine bare (before ++ first) (last ++ after) (by simp) ?_
  exact (closed_append_iff fun c mem => isQuote_of_isBlank (blanks c mem)).mpr closed

theorem Bare.blank_cons {c : Char} {text : List Char} (bare : Bare text) (blank : isBlank c) :
    Bare (c :: text) := by
  rintro before after split closed
  obtain ⟨-, same⟩ | ⟨rest, rfl, rfl⟩ := List.cons_eq_append_iff.mp split
  · exact ne_sign_of_isBlank blank (List.cons.inj same).1.symm
  · have plain : ∀ d ∈ [c], isQuote d = false := by simpa using isQuote_of_isBlank blank
    exact bare rest after rfl ((closed_append_iff plain).mp closed)

/-! ## Cutting comments -/

/-- Where a scan from the middle of a text stops. -/
theorem beforeComment_spec (stretch : Option Char) (text : List Char) :
    text = beforeComment stretch text ∨
      ∃ comment, text = beforeComment stretch text ++ '#' :: comment ∧
        (beforeComment stretch text).foldl nextStretch stretch = none := by
  induction text generalizing stretch with
  | nil => exact .inl rfl
  | cons c rest ih =>
    rw [beforeComment]
    split
    · next stop =>
      simp only [Bool.and_eq_true, Option.isNone_iff_eq_none, beq_iff_eq] at stop
      obtain ⟨rfl, rfl⟩ := stop
      exact .inr ⟨rest, rfl, rfl⟩
    · obtain whole | ⟨comment, split, outside⟩ := ih (nextStretch stretch c)
      · exact .inl (congrArg (c :: ·) whole)
      · exact .inr ⟨comment, congrArg (c :: ·) split, outside⟩

/-- A scan does not go beyond a `#` that is not quoted. -/
theorem foldl_ne_none_of_beforeComment_eq {stretch : Option Char} {text before after : List Char}
    (split : beforeComment stretch text = before ++ '#' :: after) :
    before.foldl nextStretch stretch ≠ none := by
  induction text generalizing stretch before with
  | nil => simp [beforeComment] at split
  | cons c rest ih =>
    rw [beforeComment] at split
    split at split
    · simp at split
    · next goes =>
      obtain ⟨rfl, same⟩ | ⟨first, rfl, same⟩ := List.cons_eq_append_iff.mp split
      · rintro rfl
        exact goes (by simp [← (List.cons.inj same).1])
      · rw [List.foldl_cons]
        exact ih same

/-- A scan goes to the first `#` that is not quoted. -/
theorem beforeComment_append {stretch : Option Char} {core comment : List Char}
    (quoted : ∀ before after, core = before ++ '#' :: after →
      before.foldl nextStretch stretch ≠ none)
    (outside : comment = [] ∨
      ∃ rest, comment = '#' :: rest ∧ core.foldl nextStretch stretch = none) :
    beforeComment stretch (core ++ comment) = core := by
  induction core generalizing stretch with
  | nil =>
    obtain rfl | ⟨rest, rfl, rfl⟩ := outside
    · rfl
    · rfl
  | cons c rest ih =>
    have goes : ¬ (stretch.isNone && c == '#') := by
      simp only [Bool.and_eq_true, Option.isNone_iff_eq_none, beq_iff_eq]
      rintro ⟨rfl, rfl⟩
      exact quoted [] rest rfl rfl
    rw [List.cons_append, beforeComment, if_neg goes]
    refine congrArg (c :: ·) (ih (fun before after split => ?_) outside)
    exact quoted (c :: before) after (congrArg (c :: ·) split)

/-- Only the text that `cutComment` returns is free of comments and followed by nothing
but one. -/
theorem uncommented_iff {text core : List Char} :
    Uncommented text core ↔ cutComment text = core := by
  constructor
  · rintro ⟨split, bare⟩
    have quoted : ∀ before after, core = before ++ '#' :: after →
        before.foldl nextStretch none ≠ none :=
      fun before after split outside => bare before after split (closed_iff.mpr outside)
    obtain rfl | ⟨comment, rfl, closed⟩ := split
    · simpa [cutComment] using beforeComment_append quoted (.inl rfl)
    · exact beforeComment_append quoted (.inr ⟨comment, rfl, closed.foldl_nextStretch⟩)
  · rintro rfl
    refine ⟨(beforeComment_spec none text).imp id fun ⟨comment, split, outside⟩ =>
      ⟨comment, split, closed_iff.mpr outside⟩, fun before after split closed => ?_⟩
    exact foldl_ne_none_of_beforeComment_eq split closed.foldl_nextStretch

/-! ## Blanks and further comments -/

theorem cutComment_plain_append {before : List Char}
    (plain : ∀ c ∈ before, isQuote c = false ∧ c ≠ '#') (text : List Char) :
    cutComment (before ++ text) = before ++ cutComment text := by
  induction before with
  | nil => rfl
  | cons c rest ih =>
    obtain ⟨⟨notQuote, other⟩, others⟩ := List.forall_mem_cons.mp plain
    have outside : nextStretch none c = none := if_neg (by simp [notQuote])
    rw [cutComment, List.cons_append, beforeComment, if_neg (by simpa using other), outside,
      ← cutComment, ih others, List.cons_append]

theorem cutComment_blanks_append {blanks : List Char} (space : ∀ c ∈ blanks, isBlank c)
    (text : List Char) : cutComment (blanks ++ text) = blanks ++ cutComment text :=
  cutComment_plain_append
    (fun c mem => ⟨isQuote_of_isBlank (space c mem), ne_sign_of_isBlank (space c mem)⟩) text

/-- No comment starts in a quoted stretch. -/
theorem cutComment_quoted {quote : Char} {inside : List Char} (opens : isQuote quote)
    (free : quote ∉ inside) (text : List Char) :
    cutComment (quote :: (inside ++ quote :: text))
      = quote :: (inside ++ quote :: cutComment text) := by
  have scan : beforeComment (some quote) (inside ++ quote :: text)
      = inside ++ quote :: cutComment text := by
    induction inside with
    | nil =>
      rw [List.nil_append, beforeComment, if_neg nofun, nextStretch, if_pos (by simp)]
      rfl
    | cons c rest ih =>
      obtain ⟨other, others⟩ := List.ne_and_not_mem_of_not_mem_cons free
      rw [List.cons_append, beforeComment, if_neg nofun, nextStretch,
        if_neg (by simpa using other.symm), ih others, List.cons_append]
  have sign : quote ≠ '#' := by
    rintro rfl
    exact absurd opens (by decide)
  rw [cutComment, beforeComment, if_neg (by simpa using sign), nextStretch, if_pos opens, scan]

/-- Blanks at the end stay at the end, unless they belong to the comment. -/
theorem exists_cutComment_append_blanks {blanks : List Char} (space : ∀ c ∈ blanks, isBlank c)
    (text : List Char) :
    ∃ last, (∀ c ∈ last, isBlank c) ∧ cutComment (text ++ blanks) = cutComment text ++ last := by
  have scan (stretch : Option Char) : ∃ last, (∀ c ∈ last, isBlank c) ∧
      beforeComment stretch (text ++ blanks) = beforeComment stretch text ++ last := by
    induction text generalizing stretch with
    | nil =>
      obtain whole | ⟨comment, split, -⟩ := beforeComment_spec stretch blanks
      · exact ⟨blanks, space, whole.symm⟩
      · refine absurd rfl (ne_sign_of_isBlank (space '#' ?_))
        rw [split]
        exact List.mem_append_right _ List.mem_cons_self
    | cons c rest ih =>
      rw [List.cons_append, beforeComment, beforeComment]
      split
      · exact ⟨[], nofun, rfl⟩
      · obtain ⟨last, blank, more⟩ := ih (nextStretch stretch c)
        exact ⟨last, blank, congrArg (c :: ·) more⟩
  exact scan none

/-- A comment after a text whose quotes are all closed does not matter. -/
theorem cutComment_append_comment {text : List Char} (closed : Closed text)
    (comment : List Char) : cutComment (text ++ '#' :: comment) = cutComment text := by
  have scan (stretch : Option Char) (outside : text.foldl nextStretch stretch = none) :
      beforeComment stretch (text ++ '#' :: comment) = beforeComment stretch text := by
    clear closed
    induction text generalizing stretch with
    | nil =>
      obtain rfl : stretch = none := outside
      rfl
    | cons c rest ih =>
      rw [List.cons_append, beforeComment, beforeComment, ih _ outside]
  exact scan none closed.foldl_nextStretch

end DetectorSim.Text
