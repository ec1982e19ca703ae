/-!
# Blank characters

The characters that count as blank when configuration text is trimmed and when
a list value is taken apart.  The table is the Unicode property
`White_Space`; `isBlank_of_isWhitespace` says that it contains every character
that the ASCII class of the core library contains.
-/

set_option autoImplicit false

namespace DetectorSim.Text

/-- The characters with the Unicode property `White_Space`. -/
def isBlank (c : Char) : Bool :=
  let n := c.toNat
  (0x09 ≤ n && n ≤ 0x0D) || n == 0x20 || n == 0x85 || n == 0xA0 || n == 0x1680
    || (0x2000 ≤ n && n ≤ 0x200A) || n == 0x2028 || n == 0x2029 || n == 0x202F
    || n == 0x205F || n == 0x3000

/-- The table extends the ASCII class. -/
theorem isBlank_of_isWhitespace {c : Char} (h : c.isWhitespace) : isBlank c := by
  simp only [Char.isWhitespace, Bool.or_eq_true, decide_eq_true_eq] at h
  rcases h with ((rfl | rfl) | rfl) | rfl <;> decide

/-- `text` without the blanks at its start. -/
def trimStart (text : List Char) : List Char :=
  text.dropWhile isBlank

/-- `text` without the blanks at its end. -/
def trimEnd (text : List Char) : List Char :=
  (text.reverse.dropWhile isBlank).reverse

/-- `text` without the blanks at both of its ends. -/
def trim (text : List Char) : List Char :=
  trimEnd (trimStart text)

/-- `text` without the blanks at both of its ends. -/
def trimString (text : String) : String :=
  String.ofList (trim text.toList)

end DetectorSim.Text
