/-
  The grammars at hand, by name.

  * `Grammar.start` is the start rule of a grammar and `Grammar.rule` any rule that has a name.
  * `Grammar.rules` say how the tokens of a grammar look.
-/
import Descent.Grammar.Calculator
import Descent.Grammar.Script
import Descent.Grammar.Statements
import Descent.Grammar.Words

namespace Descent

/-- A grammar. -/
inductive Grammar where
  | calculator
  | statements
  | words
  | script (program : List Script.Step)

/-- What a grammar yields. -/
inductive Yield where
  | number (n : Int)
  | text (s : String)
  | texts (ss : List String)
deriving DecidableEq, Repr

namespace Grammar

/-- The start rule. -/
def start : Grammar → Production Int Yield
  | calculator => Yield.number <$> Calculator.start
  | statements => Yield.texts <$> Statements.start
  | words => Yield.texts <$> Words.start
  | script program => Yield.texts <$> Script.Step.runAll program

/-- The rule with a name; any other name stands for the start rule. -/
def rule (g : Grammar) (name : String) : Production Int Yield :=
  match g, name with
  | calculator, "expression" => Yield.number <$> Calculator.expression
  | calculator, "term" => Yield.number <$> Calculator.term
  | calculator, "factor" => Yield.number <$> Calculator.factor
  | statements, "statement" => Yield.text <$> Statements.statement
  | g, _ => g.start

/-- How the tokens look; those of a script are words. -/
def rules : Grammar → List (Tokenizer.RuleSpec Int)
  | calculator => Calculator.rules
  | statements => Statements.rules
  | words | script _ => Words.rules

end Grammar

end Descent
