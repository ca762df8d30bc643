/-
  Cursors: tokens with a place among them and the diagnostics recorded so far.

  The place counts the tokens passed; it is the number of tokens at the end.  Diagnostics that are only
  recorded do not interrupt a parse; those that do are `ParseError`s.

  * `lookAround` sees the token at any signed distance from the place.
  * `advance`, `matchAny` and `consume` pass tokens; a `consume` that fails records its message.
  * `restore` goes back to a saved place and `truncateErrors` to a saved number of diagnostics.
  * `diagnose` shows a message under the line of the token before the place.
-/
import Descent.Config.Preferences
import Descent.Lexical.Token
import Descent.Parsing.Error
import Descent.Text.SourceMap

namespace Descent

/-- Tokens, a place among them, diagnostics and the text to show in them. -/
structure Cursor (V : Type) where
  tokens : Array (Token V)
  position : Nat
  errors : Array String
  source : Option SourceMap
  preferences : CursorPreferences

namespace Cursor

variable {V : Type}

/-! ## Making cursors -/

/-- A cursor without tokens. -/
def new (preferences : CursorPreferences) : Cursor V := ⟨#[], 0, #[], none, preferences⟩

/-- A cursor before the first of some tokens. -/
def ofTokens (preferences : CursorPreferences) (tokens : Array (Token V)) : Cursor V :=
  ⟨tokens, 0, #[], none, preferences⟩

/-- A cursor before the first of some tokens, with their text. -/
def withSource (preferences : CursorPreferences) (tokens : Array (Token V)) (source : String) : Cursor V :=
  ⟨tokens, 0, #[], some (.ofString source), preferences⟩

/-- Forget everything but the settings. -/
def reset (c : Cursor V) : Cursor V := new c.preferences

/-- Forget everything but the settings and take up new tokens. -/
def load (c : Cursor V) (tokens : Array (Token V)) (source : Option String) : Cursor V :=
  ⟨tokens, 0, #[], source.map .ofString, c.preferences⟩

/-- Give the cursor a text. -/
def setSource (c : Cursor V) (source : String) : Cursor V := { c with source := some (.ofString source) }

/-! ## Looking -/

/-- Whether all tokens are passed. -/
def atEnd (c : Cursor V) : Bool := c.tokens.size ≤ c.position

/-- The token at a distance from the place, backwards if it is negative. -/
def lookAround (c : Cursor V) (distance : Int) : Option (Token V) :=
  match (c.position : Int) + distance with
  | .ofNat i => c.tokens[i]?
  | .negSucc _ => none

/-- The token before the place. -/
def previous (c : Cursor V) : Option (Token V) := c.lookAround (-1)

/-- The token at the place. -/
def current (c : Cursor V) : Option (Token V) := c.tokens[c.position]?

/-- The token after the current one. -/
def peek (c : Cursor V) : Option (Token V) := c.lookAround 1

/-- The token after that. -/
def peekNext (c : Cursor V) : Option (Token V) := c.lookAround 2

/-- Whether the current token has a category. -/
def check (c : Cursor V) (category : String) : Bool := c.current.any (·.category == category)

/-- Whether the current token has one of some categories. -/
def checkAny (c : Cursor V) (categories : List String) : Bool := categories.any c.check

/-- The tokens not passed yet. -/
def remaining (c : Cursor V) : List (Token V) := c.tokens.toList.drop c.position

/-! ## Passing tokens -/

/-- Pass the current token; at the end nothing is passed. -/
def advance (c : Cursor V) : Option (Token V) × Cursor V :=
  if c.atEnd then (none, c) else (c.current, { c with position := c.position + 1 })

/-- Pass the current token if it has one of some categories. -/
def matchAny (c : Cursor V) (categories : List String) : Bool × Cursor V :=
  if c.checkAny categories then (true, c.advance.2) else (false, c)

/-! ## Diagnostics -/

/-- Record a diagnostic. -/
def addError (c : Cursor V) (message : String) : Cursor V := { c with errors := c.errors.push message }

/-- Forget all diagnostics. -/
def clearErrors (c : Cursor V) : Cursor V := { c with errors := #[] }

/-- Forget the diagnostics after the first ones. -/
def truncateErrors (c : Cursor V) (count : Nat) : Cursor V := { c with errors := c.errors.take count }

/-- Line and column after the token before the place; those of the start where there is none. -/
def anchor (c : Cursor V) : Nat × Nat :=
  match c.previous with
  | some token => (token.line, token.column)
  | none => (0, 0)

/-- A message with the place it is about: a diagram, or line and column if the text is not known. -/
def diagnose (c : Cursor V) (message : String) : String :=
  let (line, column) := c.anchor
  match c.source with
  | some source => source.diagram message line column c.preferences.markerFiller
  | none => s!"{message}\n(line {line}, column {column})"

/-- The error of a grammar that objects to what it finds. -/
def objection (c : Cursor V) (message : String) : ParseError := .grammar message (c.diagnose message)

/-- The error of a token that is not the expected one. -/
def mismatch (c : Cursor V) (category message : String) : ParseError :=
  .unexpectedToken category (c.current.map (·.category)) message (c.diagnose message) c.anchor.1 c.anchor.2

/-- Take a token of a category.  If the current one is of another, the message is recorded and the
place stays. -/
def consume (c : Cursor V) (category message : String) : Except ParseError (Token V) × Cursor V :=
  match c.current with
  | some token =>
    if token.category == category then (.ok token, c.advance.2)
    else (.error (c.mismatch category message), c.addError message)
  | none => (.error (c.mismatch category message), c.addError message)

/-! ## Checkpoints -/

/-- Go to a place; those past the end are taken for the end. -/
def restore (c : Cursor V) (position : Nat) : Cursor V :=
  { c with position := Nat.min position c.tokens.size }

/-- Place, number of tokens, current token and diagnostics. -/
def inspect (c : Cursor V) : String :=
  let current := match c.current with
    | some token => "Some(" ++ Text.quote token.title ++ ")"
    | none => "None"
  "Cursor \x7b position: " ++ toString c.position ++ ", len: " ++ toString c.tokens.size ++ ", current: " ++
    current ++ ", errors: [" ++ ", ".intercalate (c.errors.toList.map Text.quote) ++ "] \x7d"

end Cursor

end Descent
