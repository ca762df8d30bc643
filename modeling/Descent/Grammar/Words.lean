/-
  Words and nothing else.

      words := WORD*
-/
import Descent.Parsing.Production

namespace Descent.Words

/-- Words up to the end; at most `fuel` of them. -/
def words : Nat → List String → Production Int (List String)
  | 0, found => pure found.reverse
  | fuel + 1, found => do
    if ← .look (·.atEnd) then pure found.reverse
    else
      let word ← .consume "WORD" "Expected word"
      words fuel (word.lexeme :: found)

/-- Words up to the end.  Every word is a token, so there are no more rounds than tokens. -/
def start : Production Int (List String) := do
  words (← .look fun c => c.tokens.size - c.position) []

/-- How words, and what stands between them, look. -/
def rules : List (Tokenizer.RuleSpec Int) := [
  ⟨"WORD", "[a-z]+", none⟩,
  ⟨"SEMI", ";", none⟩,
  ⟨"SPACE", " +", none⟩]

end Descent.Words
