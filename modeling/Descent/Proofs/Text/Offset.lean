/-
  Byte offsets of characters.

  * `Utf8.size_toList`: the size of a text is the number of its bytes.
  * `Utf8.offsetOf` is the byte offset of a character given by its number; where a text is split after
    `passed`, it is the size of that part (`Utf8.offsetOf_length`).
  * `Utf8.seek?_size`: seeking that offset finds the split, and `Utf8.slice?_size`: a piece is what stands
    between two such offsets.
  * `Utf8.start?_length` and `Utf8.slice?_first`: the character after a first part starts at the byte of its size,
    and that part is what stands before it.
-/
import Descent.Text.Utf8
import Mathlib.Data.List.Basic

namespace Descent.Utf8

variable {text : String} {passed rest : List Char}

theorem utf8ByteSize_ofList (cs : List Char) : (String.ofList cs).utf8ByteSize = size cs := by
  induction cs with
  | nil => rfl
  | cons c cs ih =>
    rw [String.ofList_cons, String.utf8ByteSize_append, String.utf8ByteSize_singleton, ih, size_cons]

/-- The size of a text is the number of its bytes. -/
theorem size_toList (text : String) : size text.toList = text.utf8ByteSize := by
  rw [← utf8ByteSize_ofList, String.ofList_toList]

theorem size_eq_zero {cs : List Char} : size cs = 0 ↔ cs = [] := by
  cases cs with
  | nil => simp
  | cons c cs => have := c.utf8Size_pos; simp; omega

/-- No character takes less than a byte. -/
theorem length_le_size (cs : List Char) : cs.length ≤ size cs := by
  induction cs with
  | nil => exact Nat.le_refl 0
  | cons c cs ih => have := c.utf8Size_pos; rw [List.length_cons, size_cons]; omega

/-- The byte offset of the character numbered `i`. -/
def offsetOf (text : String) (i : Nat) : Nat := size (text.toList.take i)

theorem offsetOf_length (h : text.toList = passed ++ rest) :
    offsetOf text passed.length = size passed := by
  rw [offsetOf, h, List.take_left]

theorem size_le (h : text.toList = passed ++ rest) : size passed ≤ text.utf8ByteSize := by
  rw [← size_toList, h, size_append]; omega

/-- Short of the end of a text, something is left of it. -/
theorem size_lt_iff (h : text.toList = passed ++ rest) :
    size passed < text.utf8ByteSize ↔ rest ≠ [] := by
  rw [← size_toList, h, size_append, Ne, ← size_eq_zero]; omega

/-- Seeking the size of a first part finds the place after it. -/
theorem seek?_size (h : text.toList = passed ++ rest) :
    seek? none (size passed) text.toList = some (passed.getLast?, rest) := by
  rw [seek?_eq, splitAt?_eq_some.2 ⟨h, rfl⟩]; rfl

/-- **A piece of a text is cut out** by the offsets at which it begins and ends. -/
theorem slice?_size (before piece after : List Char) :
    slice? (before ++ (piece ++ after)) (size before) (size before + size piece) = some piece := by
  have hfirst : splitAt? (size before) (before ++ (piece ++ after)) = some (before, piece ++ after) :=
    splitAt?_eq_some.2 ⟨rfl, rfl⟩
  have hsecond : splitAt? (size piece) (piece ++ after) = some (piece, after) :=
    splitAt?_eq_some.2 ⟨rfl, rfl⟩
  rw [slice?, if_neg (by omega), hfirst]
  show (splitAt? (size before + size piece - size before) (piece ++ after)).bind _ = _
  rw [Nat.add_sub_cancel_left, hsecond]
  rfl

/-- **The character after a first part** starts where the bytes of that part end. -/
theorem start?_length {first rest : String} (h : rest ≠ "") :
    start? (first ++ rest).toList first.length = some first.utf8ByteSize := by
  have hrest : rest.length ≠ 0 := fun hzero => h (String.length_eq_zero_iff.1 hzero)
  have hlt : first.length < (first ++ rest).toList.length := by
    rw [String.length_toList, String.length_append]
    omega
  rw [start?_eq, if_pos hlt, String.toList_append, ← String.length_toList, List.take_left, size_toList]

/-- **The first part of a text** is what stands before that byte. -/
theorem slice?_first (first rest : String) :
    slice? (first ++ rest).toList 0 first.utf8ByteSize = some first.toList := by
  have hpiece := slice?_size [] first.toList rest.toList
  rwa [size_nil, Nat.zero_add, size_toList, List.nil_append, ← String.toList_append] at hpiece

theorem seek?_eq_some {before : Option Char} {offset : Nat}
    (h : seek? none offset text.toList = some (before, rest)) :
    ∃ passed, text.toList = passed ++ rest ∧ size passed = offset ∧ before = passed.getLast? := by
  rw [seek?_eq, Option.map_eq_some_iff] at h
  obtain ⟨⟨passed, post⟩, hs, he⟩ := h
  obtain ⟨rfl, rfl⟩ := Prod.mk.inj he
  obtain ⟨ht, ho⟩ := splitAt?_eq_some.1 hs
  exact ⟨passed, ht, ho, rfl⟩

end Descent.Utf8
