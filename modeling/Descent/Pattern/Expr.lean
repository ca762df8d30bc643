/-
  Patterns as expressions: what a pattern may match, and which of its matches it prefers.

  An `Expr` is built from characters, conditions on the place (`Look`), sequences, ordered choices and
  repetitions.  A choice prefers its left side; a greedy repetition prefers another round and a lazy one
  prefers to stop.

  * `Look.holds` decides a condition from the characters on both sides of a place.
  * `Expr.rep` and `Expr.choice` are the forms in which repetitions and choices enter a pattern: a
    repetition of what is always empty has at most one round, and a choice between single characters is
    a set.
-/
import Descent.Unicode.Lookup

namespace Descent.Pattern

/-- Which characters make up words. -/
inductive WordKind where
  | ascii
  | unicode
deriving DecidableEq, Repr

/-- Whether a character belongs to a word. -/
def WordKind.has : WordKind → Char → Bool
  | ascii, c => c.isAlphanum || c == '_'
  | unicode, c => Unicode.wordChars.has c

/-- A condition on a place in the text. -/
inductive Look where
  | textStart
  | textEnd
  | lineStart
  | lineEnd
  /-- A line may also end in a carriage return, or in one before a line feed. -/
  | returnLineStart
  | returnLineEnd
  | wordBoundary (kind : WordKind)
  | notWordBoundary (kind : WordKind)
  | wordStart (kind : WordKind)
  | wordEnd (kind : WordKind)
  /-- No word character comes before. -/
  | wordStartHalf (kind : WordKind)
  /-- No word character comes after. -/
  | wordEndHalf (kind : WordKind)
deriving DecidableEq, Repr

/-- Whether a condition holds between two characters, either of which may be missing. -/
def Look.holds (look : Look) (before after : Option Char) : Bool :=
  let word (kind : WordKind) (c : Option Char) : Bool := c.any kind.has
  match look with
  | textStart => before.isNone
  | textEnd => after.isNone
  | lineStart => before.all (· == '\n')
  | lineEnd => after.all (· == '\n')
  | returnLineStart => before.all fun b => b == '\n' || (b == '\r' && after != some '\n')
  | returnLineEnd => after.all fun a => a == '\r' || (a == '\n' && before != some '\r')
  | wordBoundary kind => word kind before != word kind after
  | notWordBoundary kind => word kind before == word kind after
  | wordStart kind => !word kind before && word kind after
  | wordEnd kind => word kind before && !word kind after
  | wordStartHalf kind => !word kind before
  | wordEndHalf kind => !word kind after

/-- What a pattern may match, in order of preference. -/
inductive Expr where
  /-- The empty text. -/
  | empty
  /-- One character of a set. -/
  | one (set : CharSet)
  /-- The empty text where a condition holds. -/
  | look (look : Look)
  | seq (first second : Expr)
  /-- The first alternative if it leads to a match, else the second. -/
  | alt (first second : Expr)
  /-- From `least` to `most` rounds; without `most`, any number from `least` on. -/
  | many (body : Expr) (least : Nat) (most : Option Nat) (greedy : Bool)
  /-- A group whose match is remembered. -/
  | group (body : Expr)
deriving DecidableEq, Repr

namespace Expr

/-- Whether every match is empty. -/
def alwaysEmpty : Expr → Bool
  | empty | look _ => true
  | one _ => false
  | seq a b | alt a b => a.alwaysEmpty && b.alwaysEmpty
  | many e _ _ _ | group e => e.alwaysEmpty

/-- Whether some match may be empty. -/
def mayBeEmpty : Expr → Bool
  | empty | look _ => true
  | one s => s.isEmpty
  | seq a b => a.mayBeEmpty && b.mayBeEmpty
  | alt a b => a.mayBeEmpty || b.mayBeEmpty
  | many e least _ _ => least == 0 || e.mayBeEmpty
  | group e => e.mayBeEmpty

/-- A repetition.  Rounds that are always empty are not counted past the first, no round at all is the
empty text, and a single round is the body. -/
def rep (e : Expr) (least : Nat) (most : Option Nat) (greedy : Bool) : Expr :=
  let least := if e.alwaysEmpty then Nat.min least 1 else least
  let most := if e.alwaysEmpty then some ((most.map (Nat.min · 1)).getD 1) else most
  if least = 0 ∧ most = some 0 then empty
  else if least = 1 ∧ most = some 1 then e
  else many e least most greedy

/-- A sequence of any length. -/
def sequence : List Expr → Expr
  | [] => empty
  | [e] => e
  | e :: es => seq e (sequence es)

/-- The set of an expression that is one character of a set. -/
def set? : Expr → Option CharSet
  | one s => some s
  | _ => none

/-- An ordered choice between any number of alternatives. -/
def alternatives : List Expr → Expr
  | [] => one .empty
  | [e] => e
  | e :: es => alt e (alternatives es)

/-- An ordered choice; among single characters order does not matter, so they are one set. -/
def choice (es : List Expr) : Expr :=
  match es.mapM set? with
  | some (s :: t :: sets) => one (.ofRanges ((s :: t :: sets).flatMap (·.ranges)))
  | _ => alternatives es

end Expr

end Descent.Pattern
