/-
  Line and column as coordinates of a text.

  * `Position.coordinates` are line and column, ordered by the line first.  Passing a character moves them on
    (`Position.coordinates_lt_advance`), and so does passing any characters.
  * `Position.ofIndex` is the place of the character with a number.  `Position.exists_lineStart`: its line is in
    the index of the text, and the column counts from the start of that line.
  * `Position.coordinates_determine`: so line and column belong to one offset only.
-/
import Descent.Proofs.Text.Line
import Mathlib.Data.Prod.Lex

namespace Descent.Position

variable {p : Position} {text : String} {cs : List Char} {i j : Nat}

/-! ## The order of places -/

/-- Line and column; an earlier line comes first, and in a line an earlier column. -/
def coordinates (p : Position) : ℕ ×ₗ ℕ := toLex (p.line, p.column)

/-- **A character moves line and column on.** -/
theorem coordinates_lt_advance (p : Position) (c : Char) :
    p.coordinates < (p.advance c).coordinates := by
  rw [coordinates, coordinates, Prod.Lex.toLex_lt_toLex, advance]
  split
  · exact .inl (Nat.lt_succ_self p.line)
  · exact .inr ⟨rfl, Nat.lt_succ_self p.column⟩

theorem coordinates_le_advanceBy (p : Position) (cs : List Char) :
    p.coordinates ≤ (p.advanceBy cs).coordinates := by
  induction cs generalizing p with
  | nil => exact le_rfl
  | cons c cs ih => exact (coordinates_lt_advance p c).le.trans (ih (p.advance c))

/-- **So do any characters**, if there are some. -/
theorem coordinates_lt_advanceBy (p : Position) (h : cs ≠ []) :
    p.coordinates < (p.advanceBy cs).coordinates := by
  obtain ⟨c, cs, rfl⟩ := List.exists_cons_of_ne_nil h
  exact (coordinates_lt_advance p c).trans_le (coordinates_le_advanceBy (p.advance c) cs)

/-! ## The places of a text -/

/-- The place of the character numbered `i`. -/
def ofIndex (text : String) (i : Nat) : Position := start.advanceBy (text.toList.take i)

theorem offset_ofIndex (h : i ≤ text.length) : (ofIndex text i).offset = i := by
  rw [← String.length_toList] at h
  rw [ofIndex, offset_advanceBy, List.length_take, Nat.min_eq_left h]
  exact Nat.zero_add i

theorem coordinates_lt_ofIndex (hij : i < j) (hj : j ≤ text.length) :
    (ofIndex text i).coordinates < (ofIndex text j).coordinates := by
  rw [← String.length_toList] at hj
  obtain ⟨n, rfl⟩ := Nat.exists_eq_add_of_lt hij
  rw [ofIndex, ofIndex, Nat.add_assoc, List.take_add, advanceBy_append]
  refine coordinates_lt_advanceBy _ fun hnil => ?_
  have hlength := congrArg List.length hnil
  rw [List.length_take, List.length_drop, List.length_nil] at hlength
  omega

/-- Inside a text that fits the memory, coordinates are machine words. -/
theorem advanceBy?_take (h : text.utf8ByteSize < Word.limit) (i : Nat) :
    start.advanceBy? (text.toList.take i) = .ok (ofIndex text i) := by
  have hlength : (text.toList.take i).length ≤ text.utf8ByteSize := calc
    (text.toList.take i).length ≤ text.toList.length := List.length_take_le' i text.toList
    _ ≤ Utf8.size text.toList := Utf8.length_le_size text.toList
    _ = text.utf8ByteSize := Utf8.size_toList text
  refine advanceBy?_eq (p := start) (Nat.le_refl 0) ?_
  exact (Nat.zero_add _).le.trans_lt (hlength.trans_lt h)

/-- **The column counts from the start of a line**, which is in the index of the text. -/
theorem exists_lineStart (h : i ≤ text.length) : ∃ before rest, text.toList = before ++ rest ∧
    (SourceMap.ofString text).lineStarts[(ofIndex text i).line]? = some (Utf8.size before) ∧
    before.length + (ofIndex text i).column = i := by
  rw [← String.length_toList] at h
  obtain ⟨before, line, after, hline, hcount, hcolumn, hpassed, -⟩ :=
    IsLine.exists_around (List.take_append_drop i text.toList).symm
  rw [ofIndex, start_advanceBy]
  refine ⟨before, line ++ after, hline.split, hcount ▸ SourceMap.lineStarts_eq_some hline, ?_⟩
  have hlength := congrArg List.length hpassed
  rw [List.length_append, List.length_take, List.length_take, Nat.min_eq_left h,
    Nat.min_eq_left hcolumn] at hlength
  exact hlength.symm

theorem line_lt_lineCount (h : i ≤ text.length) :
    (ofIndex text i).line < (SourceMap.ofString text).lineCount := by
  obtain ⟨_, _, -, hstart, -⟩ := exists_lineStart h
  exact (Array.getElem?_eq_some_iff.1 hstart).1

/-- **Line and column determine the offset.**  A later character of a text has greater coordinates, so no two
have the same.  The offset of a character is its number; its line is one of those in the index of the text, and
the characters before the byte at which that line starts, with the column, are those before the character.  None
of this leaves the machine word in a text that fits the memory, and characters can be passed in parts, from any
place. -/
theorem coordinates_determine (text : String) :
    (∀ i j, i < j → j ≤ text.length → (ofIndex text i).coordinates < (ofIndex text j).coordinates) ∧
    (∀ i j, i ≤ text.length → j ≤ text.length →
      (ofIndex text i).line = (ofIndex text j).line → (ofIndex text i).column = (ofIndex text j).column →
      i = j) ∧
    (∀ i ≤ text.length, (ofIndex text i).offset = i ∧
      (ofIndex text i).line < (SourceMap.ofString text).lineCount ∧
      ∃ before rest, text.toList = before ++ rest ∧
        (SourceMap.ofString text).lineStarts[(ofIndex text i).line]? = some (Utf8.size before) ∧
        before.length + (ofIndex text i).column = i) ∧
    (text.utf8ByteSize < Word.limit →
      ∀ i, start.advanceBy? (text.toList.take i) = .ok (ofIndex text i)) ∧
    ∀ (p : Position) (a b : List Char), p.advanceBy (a ++ b) = (p.advanceBy a).advanceBy b ∧
      p.advanceBy? (a ++ b) = p.advanceBy? a >>= fun q => q.advanceBy? b := by
  refine ⟨fun i j => coordinates_lt_ofIndex, fun i j hi hj hline hcolumn => ?_, fun i hi => ?_,
    advanceBy?_take, fun p a b => ⟨advanceBy_append p a b, List.foldlM_append⟩⟩
  · have hsame : (ofIndex text i).coordinates = (ofIndex text j).coordinates := by
      rw [coordinates, coordinates, hline, hcolumn]
    rcases Nat.lt_trichotomy i j with hlt | heq | hgt
    · exact absurd hsame (coordinates_lt_ofIndex hlt hj).ne
    · exact heq
    · exact absurd hsame (coordinates_lt_ofIndex hgt hi).ne'
  · exact ⟨offset_ofIndex hi, line_lt_lineCount hi, exists_lineStart hi⟩

end Descent.Position
