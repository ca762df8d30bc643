/-
  Statements that give names to numbers, with recovery.

      program   := statement*
      statement := LET IDENT EQUALS NUMBER SEMI

  A statement that goes wrong is given up: the parse goes on after the next semicolon.

  * `start` yields the names of the statements that went right.
-/
import Descent.Parsing.Production

namespace Descent.Statements

/-- One statement; its name. -/
def statement : Production Int String := do
  let _ ← .consume "LET" "Expected 'let'"
  let name ← .consume "IDENT" "Expected variable name"
  let _ ← .consume "EQUALS" "Expected '='"
  let _ ← .consume "NUMBER" "Expected number"
  let _ ← .consume "SEMI" "Expected ';'"
  pure name.lexeme

/-- One statement, or what is skipped of one that goes wrong. -/
def round : Production Int (Option String) := do
  match ← .caught statement with
  | .ok name => pure (some name)
  | .error error =>
    if error.recoverable then
      let _ ← .synchronize ["SEMI"]
      let _ ← .matchAny ["SEMI"]
      pure none
    else throw error

/-- Statements up to the end; at most `fuel` of them. -/
def statements : Nat → List String → Production Int (List String)
  | 0, names => pure names.reverse
  | fuel + 1, names => do
    if ← .look (·.atEnd) then pure names.reverse
    else
      match ← round with
      | some name => statements fuel (name :: names)
      | none => statements fuel names

/-- Statements up to the end.  Every round passes a token, so there are no more rounds than tokens. -/
def start : Production Int (List String) := do
  statements (← .look fun c => c.tokens.size - c.position) []

/-- How the tokens of a statement look. -/
def rules : List (Tokenizer.RuleSpec Int) := [
  ⟨"LET", "let", none⟩,
  ⟨"IDENT", "[a-z]+", none⟩,
  ⟨"EQUALS", "=", none⟩,
  ⟨"NUMBER", "\\d+", none⟩,
  ⟨"SEMI", ";", none⟩,
  ⟨"SPACE", "\\s+", none⟩]

end Descent.Statements
