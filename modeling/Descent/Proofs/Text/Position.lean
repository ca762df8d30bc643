/-
  The place after a first part of a text, in closed form.

  * `Position.after cs` counts the characters, the line feeds and the characters after the last line feed.
  * `Position.start_advanceBy`: passing `cs` from the start of a text leads there.
  * `Position.line_add_column_advanceBy`: line and column together are never more than the offset, and
    `Position.advanceBy?_eq`: so all coordinates are machine words as long as the offset is.
-/
import Descent.Text.Position
import Mathlib.Data.List.Induction

namespace Descent.Position

/-- The place after the characters `cs` of a text that begins with them: how many there are, how many
of them are line feeds, and how many come after the last line feed. -/
def after (cs : List Char) : Position :=
  ⟨cs.length, cs.count '\n', (cs.reverse.takeWhile (· ≠ '\n')).length⟩

@[simp] theorem offset_after (cs : List Char) : (after cs).offset = cs.length := rfl

theorem after_concat (cs : List Char) (c : Char) : after (cs ++ [c]) = (after cs).advance c := by
  unfold after advance
  by_cases hc : c = '\n'
  · subst hc; simp
  · simp [hc]

/-- **Passing characters from the start of a text counts them.** -/
theorem start_advanceBy (cs : List Char) : start.advanceBy cs = after cs := by
  induction cs using List.reverseRecOn with
  | nil => rfl
  | append_singleton cs c ih => rw [advanceBy_append, ih, after_concat]; rfl

theorem after_advanceBy (a b : List Char) : (after a).advanceBy b = after (a ++ b) := by
  rw [← start_advanceBy, ← start_advanceBy, advanceBy_append]

/-! ## Bounds -/

variable {p : Position}

theorem line_add_column_advance (h : p.line + p.column ≤ p.offset) (c : Char) :
    (p.advance c).line + (p.advance c).column ≤ (p.advance c).offset := by
  unfold advance
  split
  · show p.line + 1 + 0 ≤ p.offset + 1
    omega
  · show p.line + (p.column + 1) ≤ p.offset + 1
    omega

/-- **Line and column together are never more than the offset.** -/
theorem line_add_column_advanceBy (h : p.line + p.column ≤ p.offset) (cs : List Char) :
    (p.advanceBy cs).line + (p.advanceBy cs).column ≤ (p.advanceBy cs).offset := by
  induction cs generalizing p with
  | nil => exact h
  | cons c cs ih => exact ih (line_add_column_advance h c)

theorem line_add_column_after (cs : List Char) : (after cs).line + (after cs).column ≤ cs.length := by
  have h := line_add_column_advanceBy (p := start) (Nat.le_refl 0) cs
  rwa [start_advanceBy] at h

theorem advance?_eq (h : p.line + p.column ≤ p.offset) (hlimit : p.offset + 1 < Word.limit) (c : Char) :
    p.advance? c = .ok (p.advance c) := by
  have hadd {n : Nat} (hn : n ≤ p.offset) : Word.add? n 1 = .ok (n + 1) :=
    Word.add?_eq_ok.2 ⟨by omega, rfl⟩
  rw [advance?, advance, hadd (Nat.le_refl _), hadd (by omega : p.line ≤ p.offset),
    hadd (by omega : p.column ≤ p.offset)]
  split
  · rfl
  · rfl

/-- **Coordinates are machine words as long as the offset is.** -/
theorem advanceBy?_eq (h : p.line + p.column ≤ p.offset) {cs : List Char}
    (hlimit : p.offset + cs.length < Word.limit) : p.advanceBy? cs = .ok (p.advanceBy cs) := by
  induction cs generalizing p with
  | nil => rfl
  | cons c cs ih =>
    rw [List.length_cons] at hlimit
    rw [advanceBy?, List.foldlM_cons, advance?_eq h (by omega)]
    refine ih (line_add_column_advance h c) ?_
    rw [offset_advance]
    omega

end Descent.Position
