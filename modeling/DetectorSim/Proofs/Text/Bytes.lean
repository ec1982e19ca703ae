import Mathlib.Data.String.Basic
import DetectorSim.Table

/-!
# Texts as bytes

A text is kept as the bytes of its characters.  The encoding of a character is longer, or
begins with a greater byte, the greater its code point is; so texts have the same order
by their bytes as by their code points.
-/

set_option autoImplicit false

namespace DetectorSim.Text

/-! ## The bytes of a text -/

/-- The loop that turns bytes into a list, from the middle on. -/
theorem toList_loop (bytes : ByteArray) (i : Nat) (read : List UInt8) :
    ByteArray.toList.loop bytes i read = read.reverse ++ bytes.data.toList.drop i := by
  fun_induction ByteArray.toList.loop bytes i read with
  | case1 i read inside ih =>
    have bound : i < bytes.data.toList.length := by simpa using inside
    rw [ih, List.drop_eq_getElem_cons bound]
    simp [ByteArray.get!, inside]
  | case2 i read outside =>
    rw [List.drop_eq_nil_of_le (by simpa using Nat.le_of_not_lt outside)]
    simp

theorem toList_toUTF8 (text : String) :
    text.toUTF8.toList = text.toList.flatMap String.utf8EncodeChar := by
  have code : text.toUTF8 = (text.toList.flatMap String.utf8EncodeChar).toByteArray :=
    String.utf8Encode_toList.symm
  rw [code, ByteArray.toList, toList_loop, List.reverse_nil, List.nil_append, List.drop_zero,
    List.toList_data_toByteArray]

/-! ## Their order -/

/-- The bytes of a smaller character come first, whatever follows. -/
theorem utf8EncodeChar_append_lt {c d : Char} (before : c < d) (xs ys : List UInt8) :
    String.utf8EncodeChar c ++ xs < String.utf8EncodeChar d ++ ys := by
  have before : c.val.toNat < d.val.toNat := before
  have bound : d.val.toNat < 1114112 := by
    rcases d.valid with low | high
    · exact low.trans (by decide)
    · exact high.2
  simp only [String.utf8EncodeChar]
  generalize c.val.toNat = m at before
  generalize d.val.toNat = n at before bound
  split_ifs <;>
    simp only [List.cons_append, List.nil_append, List.cons_lt_cons_iff, UInt8.lt_iff_toNat_lt,
      ← UInt8.toNat_inj, UInt8.toNat_ofNat', Nat.reducePow]
  all_goals try omega
  -- Two characters of four bytes are left; their bytes are digits to the base 64.
  have tail (x : Nat) : (x % 64 + 128) % 256 = x % 64 + 128 := by omega
  have head (x : Nat) : (x % 8 + 240) % 256 = x % 8 + 240 := by omega
  have second (x : Nat) : x / 4096 = x / 64 / 64 := by omega
  have third (x : Nat) : x / 262144 = x / 64 / 64 / 64 := by omega
  simp only [tail, head, second, third]
  omega

theorem flatMap_utf8EncodeChar_lt {a b : List Char} (before : a < b) :
    a.flatMap String.utf8EncodeChar < b.flatMap String.utf8EncodeChar := by
  induction a generalizing b with
  | nil =>
    cases b with
    | nil => exact absurd before (List.lt_irrefl _)
    | cons d b =>
      rw [List.flatMap_nil, List.flatMap_cons]
      cases code : String.utf8EncodeChar d with
      | nil => exact absurd code String.utf8EncodeChar_ne_nil
      | cons byte rest => exact List.nil_lt_cons _ _
  | cons c a ih =>
    cases b with
    | nil => exact absurd before (List.not_lt_nil _)
    | cons d b =>
      rw [List.flatMap_cons, List.flatMap_cons]
      rcases List.cons_lt_cons_iff.mp before with first | ⟨rfl, later⟩
      · exact utf8EncodeChar_append_lt first _ _
      · generalize String.utf8EncodeChar c = code
        induction code with
        | nil => exact ih later
        | cons byte code again => exact List.cons_lt_cons_iff.mpr (.inr ⟨rfl, again⟩)

/-- The order of texts by their code points is that by their bytes. -/
theorem textBefore_iff (a b : String) :
    textBefore a b ↔ a.toUTF8.toList < b.toUTF8.toList := by
  unfold textBefore
  rw [decide_eq_true_iff, toList_toUTF8, toList_toUTF8]
  constructor
  · exact flatMap_utf8EncodeChar_lt
  · intro before
    rcases lt_trichotomy a b with first | rfl | last
    · exact first
    · exact absurd before (List.lt_irrefl _)
    · exact absurd before (List.lt_asymm (flatMap_utf8EncodeChar_lt last))

end DetectorSim.Text
