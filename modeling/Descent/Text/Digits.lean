/-
  Digits and the numbers that rows of them denote.

  * `Digits.number?` reads a number in a base of up to sixteen; letters count in both cases.
  * `Digits.char?` is the character with a number.
-/

namespace Descent.Digits

/-- The value of a digit. -/
def value? (c : Char) : Option Nat :=
  if '0' ≤ c ∧ c ≤ '9' then some (c.toNat - '0'.toNat)
  else if 'a' ≤ c ∧ c ≤ 'f' then some (c.toNat - 'a'.toNat + 10)
  else if 'A' ≤ c ∧ c ≤ 'F' then some (c.toNat - 'A'.toNat + 10)
  else none

/-- Whether a character is a digit in a base. -/
def isDigit (base : Nat) (c : Char) : Bool := (value? c).any (· < base)

/-- The number that digits denote after those that denote `n`. -/
def accumulate? (base : Nat) (n : Nat) (c : Char) : Option Nat :=
  match value? c with
  | some d => if d < base then some (n * base + d) else none
  | none => none

/-- The number that a row of digits denotes; there must be one at least. -/
def number? (base : Nat) (cs : List Char) : Option Nat :=
  if cs.isEmpty then none else cs.foldlM (accumulate? base) 0

/-- The character with a number, if there is one: half of a surrogate pair is none. -/
def char? (n : Nat) : Option Char := if h : n.isValidChar then some (Char.ofNatAux n h) else none

end Descent.Digits
