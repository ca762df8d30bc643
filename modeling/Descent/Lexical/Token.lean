/-
  Tokens: pieces of text with a category, a place and perhaps a value.

  `start` and `stop` count characters from the start of the text; `line` and `column` are those of the
  place after the lexeme, as `endPosition` says.

  * `Token.new?` makes a token of a lexeme that starts somewhere; its end must be a machine word.
  * `Token.render` names a token in messages.
-/
import Descent.Text.Escape
import Descent.Text.Position

namespace Descent

/-- A piece of text with its category and place; `V` is the type of values. -/
structure Token (V : Type) where
  category : String
  lexeme : String
  start : Nat
  stop : Nat
  line : Nat
  column : Nat
  value : Option V
deriving DecidableEq, Repr

namespace Token

variable {V : Type}

/-- A token without value whose lexeme starts at a place. -/
def new? (category lexeme : String) (start line column : Nat) : Except Fault (Token V) := do
  return ⟨category, lexeme, start, ← Word.add? start lexeme.length, line, column, none⟩

/-- Give a token a value. -/
def withValue (t : Token V) (value : V) : Token V := { t with value := some value }

/-- The number of characters between start and end. -/
def length? (t : Token V) : Except Fault Nat := Word.sub? t.stop t.start

/-- Whether a token starts where it ends. -/
def isEmpty (t : Token V) : Bool := t.start == t.stop

/-- The place after the lexeme. -/
def endPosition (t : Token V) : Position := ⟨t.stop, t.line, t.column⟩

/-- Category and lexeme. -/
def title (t : Token V) : String := t.category ++ " '" ++ Text.escape t.lexeme ++ "'"

/-- Category, lexeme and place. -/
def render (t : Token V) : String :=
  t.title ++ " @" ++ toString t.line ++ ":" ++ toString t.column

/-- All that a token holds. -/
def inspect (showValue : V → String) (t : Token V) : String :=
  let value := match t.value with
    | some v => "Some(" ++ showValue v ++ ")"
    | none => "None"
  "Token \x7b category: " ++ Text.quote t.category ++ ", lexeme: " ++ Text.quote t.lexeme ++
    ", start: " ++ toString t.start ++ ", end: " ++ toString t.stop ++ ", line: " ++ toString t.line ++
    ", column: " ++ toString t.column ++ ", value: " ++ value ++ " \x7d"

end Token

end Descent
