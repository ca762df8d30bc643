/-
  What interrupts a parse.

  A `ParseError` is raised by the cursor or by a grammar, stands for diagnostics that were only
  recorded, or passes on why the text could not be cut.  The first two kinds can be recovered from.
-/
import Descent.Lexical.Error

namespace Descent

/-- Why a parse was interrupted. -/
inductive ParseError where
  /-- A token of another category, or the end, was found where one was expected. -/
  | unexpectedToken (expected : String) (found : Option String) (message diagnostic : String)
    (line column : Nat)
  /-- A grammar objects. -/
  | grammar (message diagnostic : String)
  /-- The parse went through, but diagnostics were recorded. -/
  | reported (messages : List String)
  /-- The text could not be cut into tokens. -/
  | lexical (error : LexicalError)
deriving DecidableEq, Repr

namespace ParseError

/-- One message per line. -/
def lines (messages : List String) : String := "\n".intercalate messages

/-- The code under which an error is logged. -/
def code : ParseError → Code
  | unexpectedToken .. => .unexpectedToken
  | grammar .. => .grammarViolation
  | reported _ => .reportedErrors
  | lexical error => error.code

/-- Whether a grammar may go on after skipping to a recovery point. -/
def recoverable : ParseError → Bool
  | unexpectedToken .. | grammar .. => true
  | reported _ | lexical _ => false

/-- The message alone, without a diagram. -/
def plain : ParseError → String
  | unexpectedToken _ _ message _ _ _ | grammar message _ => message
  | reported messages => lines messages
  | lexical error => error.name

/-- The diagram, where an error has one. -/
def diagnostic? : ParseError → Option String
  | unexpectedToken _ _ _ diagnostic _ _ | grammar _ diagnostic => some diagnostic
  | lexical (.unexpectedCharacter _ _ _ diagram) => some diagram
  | _ => none

/-- The message to people. -/
def message : ParseError → String
  | unexpectedToken _ _ _ diagnostic _ _ | grammar _ diagnostic => diagnostic
  | reported messages => lines messages
  | lexical error => error.message

/-- The severity of the error's code. -/
def severity (e : ParseError) : Severity := e.code.severity

/-- The category of the error's code. -/
def category (e : ParseError) : String := e.code.category

end ParseError

end Descent
