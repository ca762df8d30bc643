/-
  What was counted while a text was cut.
-/
import Descent.Text.SortedMap

namespace Descent

/-- Counts of one cut. -/
structure Metrics where
  /-- Accepted tokens, those filtered out included. -/
  totalTokens : Nat
  /-- Tokens filtered out. -/
  filteredTokens : Nat
  /-- Characters of accepted tokens. -/
  charsScanned : Nat
  /-- Lines of the text, once it is cut to its end. -/
  linesScanned : Nat
  /-- Characters of the longest token. -/
  maxLexemeLength : Nat
  /-- Accepted tokens for which more than one rule matched. -/
  ambiguousMatches : Nat
  /-- Accepted tokens by category, if they are counted. -/
  categoryCounts : SortedMap Nat
deriving DecidableEq, Repr

namespace Metrics

/-- Nothing counted. -/
def zero : Metrics := ⟨0, 0, 0, 0, 0, 0, .empty⟩

/-- Count an accepted token. -/
def record (m : Metrics) (category : String) (width : Nat) (filtered ambiguous detailed : Bool) : Metrics where
  totalTokens := m.totalTokens + 1
  filteredTokens := if filtered then m.filteredTokens + 1 else m.filteredTokens
  charsScanned := m.charsScanned + width
  linesScanned := m.linesScanned
  maxLexemeLength := Nat.max m.maxLexemeLength width
  ambiguousMatches := if ambiguous then m.ambiguousMatches + 1 else m.ambiguousMatches
  categoryCounts := if detailed then m.categoryCounts.increment category else m.categoryCounts

end Metrics

end Descent
