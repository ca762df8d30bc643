/-
  Rules: how tokens of a category look.

  A rule pairs a category with a pattern and may turn lexemes into values.  Rules are numbered from zero
  in the order of registration.

  * `Rule.matchAt?` is the lexeme of a rule at a byte offset, and `Choice` a lexeme with its rule.
  * `Choice.all` tries every rule at a place, and `Choice.select?` picks one of the choices by a strategy.
-/
import Descent.Lexical.Selection
import Descent.Pattern.Basic
import Descent.Text.Escape

namespace Descent

/-- A category, the pattern of its lexemes and the value they are turned into. -/
structure Rule (V : Type) where
  category : String
  pattern : Pattern
  transform : Option (String → V)

namespace Rule

variable {V : Type}

/-- The value of a lexeme, if the rule makes values. -/
def value? (r : Rule V) (lexeme : String) : Option V := r.transform.map (· lexeme)

/-- The lexeme of a rule at a byte offset into a text. -/
def matchAt? (r : Rule V) (text : String) (offset : Nat) : Except Fault (Option String) :=
  r.pattern.matchAt? text offset

/-- Category, pattern and whether there is a transform. -/
def inspect (r : Rule V) : String :=
  "Rule \x7b category: " ++ Text.quote r.category ++ ", pattern: " ++ Text.quote r.pattern.source ++
    ", transform: " ++ toString r.transform.isSome ++ " \x7d"

end Rule

/-- A lexeme at a place, with the rule it comes from. -/
structure Choice (V : Type) where
  rule : Rule V
  number : Nat
  lexeme : List Char

namespace Choice

variable {V : Type}

/-- The choice as a candidate. -/
def candidate (c : Choice V) : Candidate := ⟨c.number, c.lexeme.length⟩

/-- The choices at a place, one for every rule that matches there, in the order of the rules. -/
def all (rules : List (Rule V × Nat)) (before : Option Char) (rest : List Char) : List (Choice V) :=
  rules.filterMap fun r => (r.1.pattern.lexeme? before rest).map fun lexeme => ⟨r.1, r.2, lexeme⟩

/-- The choice that a strategy selects: the one of the selected rule. -/
def select? (s : Strategy) (choices : List (Choice V)) : Option (Choice V) :=
  (s.select (choices.map candidate)).bind fun chosen => choices.find? fun c => c.number == chosen.rule

end Choice

end Descent
