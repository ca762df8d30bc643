/-
  A calculator: sums, products and parentheses over whole numbers.

      expression := term ((PLUS | MINUS) term)*
      term       := factor ((STAR | SLASH) factor)*
      factor     := NUMBER | LPAREN expression RPAREN

  Operators of one line bind to the left.  Numbers are signed words of 64 bits, and division drops the
  fraction.  Results that do not fit wrap around, as they do where arithmetic is not checked.  Where it is
  checked, such a sum or product ends the parse with a fault; so does the quotient of the least word by -1,
  checked or not.  What is proved of the calculator leaves these results out: see `parse_computes`.

  * `expression`, `term` and `factor` are the rules, and `start` wants an expression and nothing after.
-/
import Descent.Lexical.Payload
import Descent.Parsing.Production

namespace Descent.Calculator

/-- The signed word that a number wraps around to. -/
def wrap (n : Int) : Int := n.bmod Word.limit

/-- Apply an operator of a sum or product to two numbers. -/
def apply (operator : String) (a b : Int) : Production Int Int :=
  match operator with
  | "PLUS" => pure (wrap (a + b))
  | "STAR" => pure (wrap (a * b))
  | "SLASH" => if b = 0 then .object "Division by zero" else pure (wrap (a.tdiv b))
  | _ => pure (wrap (a - b))

/-- Operands after operators, from the left; at most `fuel` of them. -/
def chain (operators : List String) (operand : Production Int Int) : Nat → Int → Production Int Int
  | 0, value => pure value
  | fuel + 1, value => do
    if ← .matchAny operators then
      let operator ← .look fun c => c.previous.map (·.category)
      let right ← operand
      chain operators operand fuel (← apply (operator.getD "") value right)
    else pure value

/-- An operand and what operators add to it; every operator is a token, so there are no more rounds than
tokens. -/
def operation (operators : List String) (operand : Production Int Int) : Production Int Int := do
  let value ← operand
  let tokens ← .look fun c => c.tokens.size
  chain operators operand tokens value

/-- A number or an expression in parentheses. -/
def primary (expression : Production Int Int) : Production Int Int := do
  if ← .matchAny ["NUMBER"] then
    match ← .look fun c => c.previous.bind (·.value) with
    | some value => pure value
    | none => .object "Number without value"
  else if ← .matchAny ["LPAREN"] then
    let value ← expression
    let _ ← .consume "RPAREN" "Expected ')' after expression"
    pure value
  else .object "Expected expression"

/-- A product. -/
def product (expression : Production Int Int) : Production Int Int :=
  operation ["STAR", "SLASH"] (primary expression)

/-- An expression with at most `depth` parentheses around its innermost part. -/
def nested : (depth : Nat) → Production Int Int
  | 0 => operation ["PLUS", "MINUS"] (product (.object "Expected expression"))
  | depth + 1 => fun s => operation ["PLUS", "MINUS"] (product (nested depth)) s

/-- An expression; every parenthesis is a token, so there are no more levels than tokens. -/
def expression : Production Int Int := do
  nested (← .look fun c => c.tokens.size)

/-- A term. -/
def term : Production Int Int := product expression

/-- A factor. -/
def factor : Production Int Int := primary expression

/-- An expression and nothing after it. -/
def start : Production Int Int := do
  let value ← expression
  if ← .look (·.atEnd) then pure value else .object "Unexpected trailing input"

/-- How the tokens of an expression look. -/
def rules : List (Tokenizer.RuleSpec Int) := [
  ⟨"NUMBER", "\\d+", some Payload.integer⟩,
  ⟨"PLUS", "\\+", none⟩,
  ⟨"MINUS", "-", none⟩,
  ⟨"STAR", "\\*", none⟩,
  ⟨"SLASH", "/", none⟩,
  ⟨"LPAREN", "\\(", none⟩,
  ⟨"RPAREN", "\\)", none⟩,
  ⟨"SPACE", "\\s+", none⟩]

end Descent.Calculator
