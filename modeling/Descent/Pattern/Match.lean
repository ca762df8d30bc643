/-
  Running a program over a text.

  All ways through a program are followed at once, one character at a time, and kept in order of
  preference.  A step that was reached by a preferred way is not entered again at the same place, so the
  work per character is bounded by the size of the program.  When a way ends in a match, the ways it is
  preferred to are dropped; those before it may still find another match.

  * `follow` goes from steps that read nothing to those that read a character.
  * `matchLength?` is the length of the preferred match at the start of a text, seen after the character
    before it; `matchLength?_le`: a match never runs past the end of the text.
-/
import Descent.Pattern.Program

namespace Descent.Pattern.Program

/-- A way that waits for a character: what it may be, and the step after it. -/
structure Waiting where
  set : CharSet
  next : Nat

/-- Follow the steps on the stack, the preferred one on top, to those that read a character.  `seen` has
a bit for every step entered at this place.  The result holds the waiting ways, the preferred one last,
and whether one way ended in a match; less preferred ways are then left out. -/
def follow (p : Program) (before after : Option Char) :
    Nat → List Nat → Nat → List Waiting → List Waiting × Bool
  | 0, _, _, waiting => (waiting, false)
  | _ + 1, [], _, waiting => (waiting, false)
  | fuel + 1, i :: stack, seen, waiting =>
    if seen.testBit i then follow p before after fuel stack seen waiting
    else
      let seen := seen ||| (1 <<< i)
      match p.steps[i]? with
      | none => follow p before after fuel stack seen waiting
      | some .accept => (waiting, true)
      | some (.char set next) => follow p before after fuel stack seen (⟨set, next⟩ :: waiting)
      | some (.look look next) =>
        if look.holds before after then follow p before after fuel (next :: stack) seen waiting
        else follow p before after fuel stack seen waiting
      | some (.split first second) => follow p before after fuel (first :: second :: stack) seen waiting

/-- Read a character: the steps after the ways that wait for it, the preferred one first. -/
def read (c : Char) (steps : List Nat) : List Waiting → List Nat
  | [] => steps
  | w :: waiting => read c (if w.set.has c then w.next :: steps else steps) waiting

/-- Enough rounds to follow `n` steps: each step of the program is expanded once, into at most two. -/
def rounds (p : Program) (n : Nat) : Nat := n + 3 * p.steps.size + 1

/-- Follow steps over a text of which `n` characters were read; `best` is the length of the match found
last. -/
def run (p : Program) (before : Option Char) (n : Nat) (best : Option Nat) (steps : List Nat) :
    List Char → Option Nat
  | [] => if (follow p before none (p.rounds steps.length) steps 0 []).2 then some n else best
  | c :: cs =>
    let (waiting, matched) := follow p before (some c) (p.rounds steps.length) steps 0 []
    let best := if matched then some n else best
    match read c [] waiting with
    | [] => best
    | steps => run p (some c) (n + 1) best steps cs

/-- The length of the preferred match at the start of a text. -/
def matchLength? (p : Program) (before : Option Char) (cs : List Char) : Option Nat :=
  p.run before 0 none [p.start] cs

theorem run_le {p : Program} {before : Option Char} {n m : Nat} {best : Option Nat} {steps : List Nat}
    {cs : List Char} (hbest : ∀ k ∈ best, k ≤ n) (h : p.run before n best steps cs = some m) :
    m ≤ n + cs.length := by
  induction cs generalizing before n best steps with
  | nil =>
    simp only [run] at h
    split at h
    · simp_all
    · exact Nat.le_trans (hbest m (by simp [h])) (Nat.le_add_right ..)
  | cons c cs ih =>
    simp only [run] at h
    have hbest' : ∀ k ∈ (if (follow p before (some c) (p.rounds steps.length) steps 0 []).2
        then some n else best), k ≤ n := by
      intro k hk
      split at hk
      · simp_all
      · exact hbest k hk
    split at h
    · exact Nat.le_trans (hbest' m (by simp [h])) (Nat.le_add_right ..)
    · have := ih (fun k hk => Nat.le_succ_of_le (hbest' k hk)) h
      simp only [List.length_cons]; omega

/-- A match never runs past the end of the text. -/
theorem matchLength?_le {p : Program} {before : Option Char} {cs : List Char} {n : Nat}
    (h : p.matchLength? before cs = some n) : n ≤ cs.length := by
  simpa using run_le (by simp) h

end Descent.Pattern.Program
