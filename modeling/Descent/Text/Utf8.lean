/-
  Byte offsets into a list of characters.

  A text is a list of characters; its size in bytes is that of its UTF-8 form.  A byte offset names a
  place in the text only if it falls between two characters.

  * `splitAt?` cuts a list at a byte offset and is defined on exactly the offsets between characters:
    `splitAt?_eq_some`.
  * `seek?` finds the same place but keeps of the first part its last character only, which is all a
    pattern can see of it: `seek?_eq`.
  * `slice?` is the stretch between two byte offsets.
  * `start?` is the byte offset of a character given by its number, which falls between two characters:
    `start?_eq`.
-/

namespace Descent.Utf8

/-- The size of a list of characters in UTF-8. -/
def size (cs : List Char) : Nat := cs.foldl (fun n c => n + c.utf8Size) 0

/-- Cut after `n` bytes, `before` being the characters passed already, last one first. -/
def splitFrom? (before : List Char) : Nat → List Char → Option (List Char × List Char)
  | 0, cs => some (before.reverse, cs)
  | _ + 1, [] => none
  | n + 1, c :: cs =>
    if c.utf8Size ≤ n + 1 then splitFrom? (c :: before) (n + 1 - c.utf8Size) cs else none

/-- Cut a list at a byte offset, if it falls between two characters. -/
def splitAt? (n : Nat) (cs : List Char) : Option (List Char × List Char) := splitFrom? [] n cs

/-- The character before a byte offset and the characters after it. -/
def seek? (before : Option Char) : Nat → List Char → Option (Option Char × List Char)
  | 0, cs => some (before, cs)
  | _ + 1, [] => none
  | n + 1, c :: cs => if c.utf8Size ≤ n + 1 then seek? (some c) (n + 1 - c.utf8Size) cs else none

/-- The characters from byte `start` up to byte `stop`. -/
def slice? (cs : List Char) (start stop : Nat) : Option (List Char) := do
  if stop < start then none
  let (_, rest) ← splitAt? start cs
  let (piece, _) ← splitAt? (stop - start) rest
  return piece

/-- The byte at which the character numbered `n` starts, `passed` being the bytes passed already. -/
def startFrom? (passed : Nat) : List Char → Nat → Option Nat
  | [], _ => none
  | _ :: _, 0 => some passed
  | c :: cs, n + 1 => startFrom? (passed + c.utf8Size) cs n

/-- The byte at which the character numbered `n` starts, if there are that many. -/
def start? (cs : List Char) (n : Nat) : Option Nat := startFrom? 0 cs n

theorem foldl_size (n : Nat) (cs : List Char) :
    cs.foldl (fun n c => n + c.utf8Size) n = n + size cs := by
  induction cs generalizing n with
  | nil => rfl
  | cons c cs ih =>
    rw [size, List.foldl_cons, List.foldl_cons, ih, ih (0 + c.utf8Size)]; omega

@[simp] theorem size_nil : size [] = 0 := rfl

@[simp] theorem size_cons (c : Char) (cs : List Char) : size (c :: cs) = c.utf8Size + size cs := by
  rw [size, List.foldl_cons, foldl_size]; omega

@[simp] theorem size_append (a b : List Char) : size (a ++ b) = size a + size b := by
  induction a with
  | nil => simp
  | cons c a ih => simp [ih, Nat.add_assoc]

theorem splitFrom?_eq_some {before cs pre post : List Char} {n : Nat} :
    splitFrom? before n cs = some (pre, post) ↔
      ∃ mid, pre = before.reverse ++ mid ∧ cs = mid ++ post ∧ size mid = n := by
  induction cs generalizing before n with
  | nil =>
    cases n with
    | zero =>
      simp only [splitFrom?, Option.some.injEq, Prod.mk.injEq]
      constructor
      · rintro ⟨rfl, rfl⟩; exact ⟨[], by simp⟩
      · rintro ⟨mid, rfl, hc, -⟩; simp_all
    | succ n =>
      simp only [splitFrom?, reduceCtorEq, false_iff, not_exists, not_and]
      rintro mid rfl hc hs
      simp_all
  | cons c cs ih =>
    cases n with
    | zero =>
      simp only [splitFrom?, Option.some.injEq, Prod.mk.injEq]
      constructor
      · rintro ⟨rfl, rfl⟩; exact ⟨[], by simp⟩
      · rintro ⟨mid, rfl, hc, hs⟩
        cases mid with
        | nil => simp_all
        | cons d mid => have := d.utf8Size_pos; simp at hs; omega
    | succ n =>
      simp only [splitFrom?]
      split
      · rename_i h
        rw [ih]
        constructor
        · rintro ⟨mid, rfl, rfl, hs⟩
          exact ⟨c :: mid, by simp, by simp, by simp; omega⟩
        · rintro ⟨mid, rfl, hc, hs⟩
          cases mid with
          | nil => simp at hs
          | cons d mid =>
            simp only [List.cons_append, List.cons.injEq] at hc
            obtain ⟨rfl, rfl⟩ := hc
            exact ⟨mid, by simp, rfl, by simp at hs; omega⟩
      · rename_i h
        simp only [reduceCtorEq, false_iff, not_exists, not_and]
        rintro mid rfl hc hs
        cases mid with
        | nil => simp at hs
        | cons d mid =>
          simp only [List.cons_append, List.cons.injEq] at hc
          obtain ⟨rfl, rfl⟩ := hc
          simp at hs; omega

/-- A cut succeeds exactly where the offset is the size of what comes before it. -/
theorem splitAt?_eq_some {cs pre post : List Char} {n : Nat} :
    splitAt? n cs = some (pre, post) ↔ cs = pre ++ post ∧ size pre = n := by
  rw [splitAt?, splitFrom?_eq_some]
  constructor
  · rintro ⟨mid, rfl, rfl, rfl⟩; simp
  · rintro ⟨rfl, rfl⟩; exact ⟨pre, by simp⟩

theorem seek?_eq_splitFrom? (before : List Char) (n : Nat) (cs : List Char) :
    seek? before.head? n cs = (splitFrom? before n cs).map fun p => (p.1.getLast?, p.2) := by
  induction cs generalizing before n with
  | nil => cases n <;> simp [seek?, splitFrom?]
  | cons c cs ih =>
    cases n with
    | zero => simp [seek?, splitFrom?]
    | succ n =>
      simp only [seek?, splitFrom?]
      split
      · exact ih (c :: before) _
      · rfl

/-- Seeking is cutting, with the last character of the first part for the part. -/
theorem seek?_eq (n : Nat) (cs : List Char) :
    seek? none n cs = (splitAt? n cs).map fun p => (p.1.getLast?, p.2) :=
  seek?_eq_splitFrom? [] n cs

theorem startFrom?_eq (passed n : Nat) (cs : List Char) : startFrom? passed cs n =
    if n < cs.length then some (passed + size (cs.take n)) else none := by
  induction cs generalizing passed n with
  | nil => simp [startFrom?]
  | cons c cs ih =>
    cases n with
    | zero => simp [startFrom?]
    | succ n => simp [startFrom?, ih, Nat.add_assoc]

/-- A character starts after the bytes of those before it. -/
theorem start?_eq (cs : List Char) (n : Nat) :
    start? cs n = if n < cs.length then some (size (cs.take n)) else none := by
  rw [start?, startFrom?_eq, Nat.zero_add]

end Descent.Utf8
