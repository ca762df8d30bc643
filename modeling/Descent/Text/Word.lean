/-
  Machine words and the faults of arithmetic on them.

  Offsets, lines and columns are natural numbers; where they come from outside they are bounded by a
  64-bit word, and values of tokens by a signed one.  `Word.add?` and `Word.sub?` are the operations that must stay inside the word, and a
  `Fault` says which of them left it.

  * `Word.add?_eq_ok` and `Word.sub?_eq_ok`: the checked operations are the plain ones on exactly the
    arguments whose result is a word.
-/

namespace Descent

/-- A broken precondition of an operation on coordinates. -/
inductive Fault where
  /-- A sum left the word. -/
  | addOverflow
  /-- A difference fell below zero. -/
  | subOverflow
  /-- A span was asked to end before it starts. -/
  | reversedSpan
  /-- A byte offset lies past the end of the text. -/
  | offsetPastEnd
deriving DecidableEq, Repr

/-- The wording of a fault. -/
def Fault.message : Fault → String
  | addOverflow => "attempt to add with overflow"
  | subOverflow => "attempt to subtract with overflow"
  | reversedSpan => "Span start must not be after end"
  | offsetPastEnd => "offset past the end of the text"

namespace Word

/-- The first number that no longer fits a word of 64 bits. -/
def limit : Nat := 0x10000000000000000

/-- The first number that no longer fits a signed word of 64 bits. -/
def signedLimit : Int := 0x8000000000000000

/-- A number, if it fits a word. -/
def ofInt? (n : Int) : Option Nat := if 0 ≤ n ∧ n < limit then some n.toNat else none

/-- A number, if it fits a signed word. -/
def signed? (n : Int) : Option Int := if -signedLimit ≤ n ∧ n < signedLimit then some n else none

/-- The sum, if it fits a word. -/
def add? (a b : Nat) : Except Fault Nat :=
  if a + b < limit then .ok (a + b) else .error .addOverflow

/-- The difference, if it is not negative. -/
def sub? (a b : Nat) : Except Fault Nat :=
  if b ≤ a then .ok (a - b) else .error .subOverflow

theorem ofInt?_natCast {n : Nat} (h : n < limit) : ofInt? n = some n := by
  simp [ofInt?, h]

theorem signed?_eq_some {n m : Int} :
    signed? n = some m ↔ -signedLimit ≤ n ∧ n < signedLimit ∧ m = n := by
  unfold signed?; split <;> grind

theorem add?_eq_ok {a b c : Nat} : add? a b = .ok c ↔ a + b < limit ∧ c = a + b := by
  unfold add?; split <;> grind

theorem sub?_eq_ok {a b c : Nat} : sub? a b = .ok c ↔ b ≤ a ∧ c = a - b := by
  unfold sub?; split <;> grind

end Word

end Descent
