/-
  Values that tokens may carry: what a lexeme denotes, as a signed word of 64 bits.
-/
import Descent.Text.Digits
import Descent.Text.Word

namespace Descent.Payload

/-- The number that digits with an optional sign denote. -/
def signed? : List Char → Option Int
  | '-' :: cs => (Digits.number? 10 cs).map fun n => -(n : Int)
  | '+' :: cs => (Digits.number? 10 cs).map fun n => (n : Int)
  | cs => (Digits.number? 10 cs).map fun n => (n : Int)

/-- The whole number that a lexeme denotes; 0 if it denotes none, or none that fits. -/
def integer (lexeme : String) : Int :=
  ((signed? lexeme.toList).bind Word.signed?).getD 0

/-- How many characters a lexeme has. -/
def charCount (lexeme : String) : Int := lexeme.length

/-- How many bytes a lexeme has. -/
def byteCount (lexeme : String) : Int := lexeme.utf8ByteSize

/-- The transforms by name. -/
def named? : String → Option (String → Int)
  | "int" => some integer
  | "chars" => some charCount
  | "bytes" => some byteCount
  | _ => none

end Descent.Payload
