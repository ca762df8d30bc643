/-
  What the operations of a cursor come to.

  Operations that pass tokens move the cursor `forward` and change nothing else of it:

  * `Cursor.advance_eq`, `Cursor.matchAny_eq` and `Cursor.consume_cases` say what is answered, and how far
    the cursor is then.
  * `Cursor.distance` is the number of tokens before the first one of some categories, and
    `Cursor.synchronize_eq`: that many tokens are skipped, as far as the limit allows.
  * `Cursor.lookAround_eq` and `Cursor.isSome_lookAround`: what is seen at a distance, and when.
-/
import Descent.Parsing.Recovery
import Mathlib.Data.List.TakeWhile

namespace Descent.Cursor

variable {V : Type} {c : Cursor V} {categories : List String} {category message : String}

/-! ## The tokens not passed -/

/-- The cursor a number of tokens further on. -/
def forward (c : Cursor V) (n : Nat) : Cursor V := { c with position := c.position + n }

@[simp] theorem position_forward (c : Cursor V) (n : Nat) : (c.forward n).position = c.position + n := rfl

@[simp] theorem tokens_forward (c : Cursor V) (n : Nat) : (c.forward n).tokens = c.tokens := rfl

@[simp] theorem errors_forward (c : Cursor V) (n : Nat) : (c.forward n).errors = c.errors := rfl

@[simp] theorem forward_zero (c : Cursor V) : c.forward 0 = c := rfl

@[simp] theorem forward_forward (c : Cursor V) (m n : Nat) :
    (c.forward m).forward n = c.forward (m + n) := by
  simp [forward, Nat.add_assoc]

@[simp] theorem remaining_forward (c : Cursor V) (n : Nat) :
    (c.forward n).remaining = c.remaining.drop n := by
  simp [remaining, List.drop_drop]

@[simp] theorem length_remaining (c : Cursor V) : c.remaining.length = c.tokens.size - c.position := by
  simp [remaining]

theorem current_eq (c : Cursor V) : c.current = c.remaining.head? := by
  simp [current, remaining, List.head?_drop]

theorem atEnd_iff {c : Cursor V} : c.atEnd = true ↔ c.tokens.size ≤ c.position := decide_eq_true_iff

theorem atEnd_eq (c : Cursor V) : c.atEnd = c.remaining.isEmpty := by
  rw [Bool.eq_iff_iff, List.isEmpty_iff_length_eq_zero, length_remaining, atEnd_iff]
  omega

theorem check_eq (c : Cursor V) (category : String) :
    c.check category = c.remaining.head?.any (·.category == category) := by
  rw [check, current_eq]

theorem checkAny_eq (c : Cursor V) (categories : List String) :
    c.checkAny categories = c.remaining.head?.any fun tok => categories.contains tok.category := by
  have hcheck : c.check = fun category => c.remaining.head?.any (·.category == category) :=
    funext c.check_eq
  rw [checkAny, hcheck]
  cases c.remaining.head? with
  | none => simp
  | some tok => exact List.any_beq

/-- Only a token can be of one of some categories. -/
theorem exists_cons_of_checkAny (h : c.checkAny categories = true) :
    ∃ tok rest, c.remaining = tok :: rest := by
  rw [checkAny_eq] at h
  refine List.exists_cons_of_ne_nil fun hnil => ?_
  rw [hnil] at h
  exact Bool.false_ne_true h

/-! ## Passing tokens -/

/-- **The current token is answered and passed**, if there is one. -/
theorem advance_eq (c : Cursor V) :
    c.advance = (c.remaining.head?, c.forward (min 1 c.remaining.length)) := by
  rw [advance, atEnd_eq, current_eq]
  cases c.remaining with
  | nil => rfl
  | cons tok rest => simp [forward]

/-- With a token left, passing it moves the cursor one on. -/
theorem advance_snd {tok : Token V} {rest : List (Token V)} (h : c.remaining = tok :: rest) :
    c.advance.2 = c.forward 1 := by
  rw [advance_eq, h, List.length_cons, Nat.min_eq_left (by omega)]

/-- **The current token is passed if it is of one of the categories.** -/
theorem matchAny_eq (c : Cursor V) (categories : List String) : c.matchAny categories =
    if c.checkAny categories then (true, c.forward 1) else (false, c) := by
  rw [matchAny]
  split
  · next h =>
    obtain ⟨tok, rest, hr⟩ := exists_cons_of_checkAny h
    rw [advance_snd hr]
  · rfl

/-- **Either a token of the category is taken, or the message is recorded** and nothing is passed. -/
theorem consume_cases (c : Cursor V) (category message : String) :
    (∃ tok rest, c.remaining = tok :: rest ∧ c.check category = true ∧
      c.consume category message = (.ok tok, c.forward 1)) ∨
    (c.check category = false ∧
      c.consume category message = (.error (c.mismatch category message), c.addError message)) := by
  rw [check_eq, consume, current_eq]
  cases hr : c.remaining with
  | nil => exact .inr ⟨rfl, rfl⟩
  | cons tok rest =>
    by_cases hc : tok.category = category
    · exact .inl ⟨tok, rest, rfl, by simpa using hc, by simp [hc, advance_snd hr]⟩
    · exact .inr ⟨by simpa using hc, by simp [hc]⟩

/-- A `consume` that fails records its message and changes nothing else. -/
theorem consume_of_error {e : ParseError} (h : (c.consume category message).1 = .error e) :
    (c.consume category message).2 = c.addError message := by
  rcases c.consume_cases category message with ⟨tok, rest, -, -, he⟩ | ⟨-, he⟩
  · rw [he] at h; cases h
  · rw [he]

/-! ## Skipping tokens -/

/-- How many tokens stand before the first one of some categories. -/
def distance (c : Cursor V) (categories : List String) : Nat :=
  (c.remaining.takeWhile fun tok => !categories.contains tok.category).length

theorem distance_le (c : Cursor V) (categories : List String) :
    c.distance categories ≤ c.remaining.length :=
  (List.takeWhile_prefix _).length_le

/-- A token of another category is one of those before. -/
theorem distance_cons {tok : Token V} {rest : List (Token V)} (h : c.remaining = tok :: rest)
    (hc : c.checkAny categories = false) :
    c.distance categories = (c.forward 1).distance categories + 1 := by
  rw [checkAny_eq, h] at hc
  rw [distance, distance, remaining_forward, h, List.takeWhile_cons_of_pos (by simpa using hc)]
  rfl

theorem distance_eq_zero (h : c.atEnd = true ∨ c.checkAny categories = true) :
    c.distance categories = 0 := by
  rw [atEnd_eq, checkAny_eq] at h
  rw [distance]
  cases hr : c.remaining with
  | nil => rfl
  | cons tok rest =>
    rw [hr] at h
    rw [List.takeWhile_cons_of_neg (by simpa using h)]
    rfl

/-- The loop skips the tokens up to the first wanted one, or as many as it may. -/
theorem skipTo_eq (categories : List String) (budget skipped : Nat) (c : Cursor V) :
    (skipTo categories budget skipped c).cursor = c.forward (min budget (c.distance categories)) ∧
      (skipTo categories budget skipped c).skipped = skipped + min budget (c.distance categories) := by
  induction budget generalizing skipped c with
  | zero => rw [Nat.zero_min]; exact ⟨rfl, rfl⟩
  | succ budget ih =>
    rw [skipTo]
    split
    · next hend => rw [distance_eq_zero (.inl hend), Nat.min_zero]; exact ⟨rfl, rfl⟩
    · next hend =>
      split
      · next hfound => rw [distance_eq_zero (.inr hfound), Nat.min_zero]; exact ⟨rfl, rfl⟩
      · next hfound =>
        have hr : c.remaining ≠ [] := by simpa [atEnd_eq] using hend
        obtain ⟨tok, rest, hr⟩ := List.exists_cons_of_ne_nil hr
        have hd := distance_cons hr (by simpa using hfound)
        obtain ⟨hcursor, hskipped⟩ := ih (skipped + 1) (c.forward 1)
        rw [hd, Nat.add_min_add_right]
        refine ⟨hcursor.trans ?_, hskipped.trans ?_⟩
        · rw [forward_forward, Nat.add_comm]
        · omega

/-- **The tokens up to the first wanted one are skipped**, as far as the limit allows. -/
theorem synchronize_eq (c : Cursor V) (categories : List String) :
    (c.synchronize categories).cursor = c.forward (min Limits.recoveryScan (c.distance categories)) ∧
      (c.synchronize categories).skipped = min Limits.recoveryScan (c.distance categories) := by
  have h := skipTo_eq categories Limits.recoveryScan 0 c
  rwa [Nat.zero_add] at h

/-! ## Looking around -/

/-- **The token at a distance** is the one at the sum of place and distance. -/
theorem lookAround_eq {k : Int} {i : Nat} (h : (c.position : Int) + k = i) :
    c.lookAround k = c.tokens[i]? := by
  rw [lookAround, h]

/-- **A token is seen at just the distances that lead to one.** -/
theorem isSome_lookAround (c : Cursor V) (k : Int) : (c.lookAround k).isSome = true ↔
    0 ≤ (c.position : Int) + k ∧ (c.position : Int) + k < c.tokens.size := by
  rw [lookAround]
  cases (c.position : Int) + k with
  | ofNat i => simp
  | negSucc i => simp

end Descent.Cursor
