/-
  Choosing between rules that match at the same place.

  Candidates come in the order of their rules.  The first one is the incumbent, and each later one takes
  its place if the strategy prefers it.  A strategy is any test on two candidates; it need not be an
  order.

  * `Strategy.longest` prefers longer lexemes and `Strategy.first` nothing.
  * `Strategy.select_mem`: what is selected is one of the candidates.
  * `Strategy.select_eq_none`: only from no candidates nothing is selected.
-/

namespace Descent

/-- A rule that matches, by its number, and the length of its lexeme in characters. -/
structure Candidate where
  rule : Nat
  width : Nat
deriving DecidableEq, Repr

/-- When a later candidate takes the place of the incumbent. -/
structure Strategy where
  name : String
  prefers : (incumbent challenger : Candidate) → Bool

namespace Strategy

/-- The longest lexeme; of two of one length, that of the earlier rule. -/
def longest : Strategy := ⟨"longest-match", fun best challenger => challenger.width > best.width⟩

/-- The first rule that matches. -/
def first : Strategy := ⟨"first-match", fun _ _ => false⟩

/-- A strategy without a name of its own. -/
def custom (prefers : Candidate → Candidate → Bool) : Strategy := ⟨"custom", prefers⟩

/-- The last rule that matches. -/
def last : Strategy := custom fun _ _ => true

/-- The shortest lexeme; of two of one length, that of the earlier rule. -/
def shortest : Strategy := custom fun best challenger => challenger.width < best.width

/-- The shortest lexeme; of two of one length, that of the later rule. -/
def shortestLast : Strategy := custom fun best challenger => challenger.width ≤ best.width

/-- The longest lexeme; of two of one length, that of the later rule. -/
def longestLast : Strategy := custom fun best challenger => challenger.width ≥ best.width

/-- A rule with an odd number takes the place of one with an even number. -/
def odd : Strategy := custom fun best challenger => challenger.rule % 2 == 1 && best.rule % 2 == 0

/-- The incumbent after one more candidate. -/
def challenge (s : Strategy) (best : Option Candidate) (challenger : Candidate) : Option Candidate :=
  match best with
  | none => some challenger
  | some incumbent => some (if s.prefers incumbent challenger then challenger else incumbent)

/-- The incumbent after all candidates. -/
def select (s : Strategy) (candidates : List Candidate) : Option Candidate :=
  candidates.foldl s.challenge none

theorem foldl_challenge_some (s : Strategy) (best : Candidate) (cs : List Candidate) :
    ∃ c, cs.foldl s.challenge (some best) = some c ∧ c ∈ best :: cs := by
  induction cs generalizing best with
  | nil => exact ⟨best, rfl, by simp⟩
  | cons d ds ih =>
    obtain ⟨c, hc, hm⟩ := ih (if s.prefers best d then d else best)
    refine ⟨c, hc, ?_⟩
    rw [List.mem_cons] at hm ⊢
    rcases hm with rfl | hm
    · split <;> simp
    · exact .inr (List.mem_cons_of_mem _ hm)

theorem select_cons (s : Strategy) (c : Candidate) (cs : List Candidate) :
    ∃ d, s.select (c :: cs) = some d ∧ d ∈ c :: cs := foldl_challenge_some s c cs

/-- Only from no candidates nothing is selected. -/
theorem select_eq_none {s : Strategy} {cs : List Candidate} : s.select cs = none ↔ cs = [] := by
  cases cs with
  | nil => simp [select]
  | cons c cs =>
    obtain ⟨d, hd, -⟩ := select_cons s c cs
    simp [hd]

/-- What is selected is one of the candidates. -/
theorem select_mem {s : Strategy} {cs : List Candidate} {c : Candidate} (h : s.select cs = some c) :
    c ∈ cs := by
  cases cs with
  | nil => simp [select] at h
  | cons d ds =>
    obtain ⟨e, he, hm⟩ := select_cons s d ds
    rw [he] at h
    exact (Option.some.inj h) ▸ hm

end Strategy

end Descent
