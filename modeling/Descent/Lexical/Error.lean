/-
  What can go wrong when rules are registered and texts are cut.

  Each `LexicalError` has a code, a short name and a message; two kinds have a place in the text.
-/
import Descent.Config.Limits
import Descent.Log.Code

namespace Descent

/-- Why a text could not be cut, or a rule not be registered. -/
inductive LexicalError where
  /-- No rule matches at a place; the diagram shows it. -/
  | unexpectedCharacter (excerpt : String) (line column : Nat) (diagram : String)
  /-- The pattern of a rule is refused. -/
  | invalidPattern (category reason : String)
  /-- The selected rule matches the empty text. -/
  | zeroWidthMatch (category : String) (line column : Nat)
  /-- The text has more tokens than are allowed. -/
  | tooManyTokens (count : Nat)
  /-- The table has no room for another rule. -/
  | tooManyRules (count : Nat)
deriving DecidableEq, Repr

namespace LexicalError

/-- The code under which an error is logged. -/
def code : LexicalError → Code
  | unexpectedCharacter .. => .unexpectedCharacter
  | invalidPattern .. => .invalidPattern
  | zeroWidthMatch .. => .zeroWidthMatch
  | tooManyTokens .. => .tooManyTokens
  | tooManyRules .. => .tooManyRules

/-- A short name. -/
def name : LexicalError → String
  | unexpectedCharacter .. => "unexpected character"
  | invalidPattern .. => "invalid pattern"
  | zeroWidthMatch .. => "zero-width match"
  | tooManyTokens .. => "too many tokens"
  | tooManyRules .. => "too many rules"

/-- Line and column, where an error has a place. -/
def location? : LexicalError → Option (Nat × Nat)
  | unexpectedCharacter _ line column _ | zeroWidthMatch _ line column => some (line, column)
  | _ => none

/-- The message to people. -/
def message : LexicalError → String
  | unexpectedCharacter _ _ _ diagram => diagram
  | invalidPattern category reason => s!"Invalid pattern for rule '{category}': {reason}"
  | zeroWidthMatch category line column =>
    s!"Rule '{category}' matched an empty lexeme at line {line}, column {column}"
  | tooManyTokens count => s!"Too many tokens: {count} (max {Limits.tokenCount})"
  | tooManyRules count => s!"Too many rules: {count} (max {Limits.ruleCount})"

end LexicalError

end Descent
