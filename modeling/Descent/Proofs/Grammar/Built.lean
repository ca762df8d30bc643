/-
  The rules of the grammars are built of a cursor's operations.

  * `Script.Step.keeps` are the steps of scripts that drop no diagnostics but by attempts.
  * `Grammar.built_rule`: so is every rule of a grammar, scripts with other steps apart.
  * `Grammar.growsTo_rule` and `Grammar.attempt_rule`: running one keeps what was on the cursor, and trying
    one in vain leaves no trace.
-/
import Descent.Grammar.Basic
import Descent.Proofs.Parsing.Speculation

namespace Descent

open Production

namespace Calculator

theorem built_apply (operator : String) (a b : Int) : (apply operator a b).Built := by
  unfold apply
  split
  · exact .pure _
  · exact .pure _
  · split
    · exact .object _
    · exact .pure _
  · exact .pure _

theorem built_operation (operators : List String) {operand : Production Int Int} (h : operand.Built) :
    (operation operators operand).Built := by
  refine h.bind fun value => (Built.look _).bind fun fuel => ?_
  induction fuel generalizing value with
  | zero => exact .pure value
  | succ fuel ih =>
    refine (Built.matchAny operators).bind fun found => ?_
    cases found with
    | false => exact .pure value
    | true =>
      exact (Built.look _).bind fun operator => h.bind fun right =>
        (built_apply _ value right).bind fun value => ih value

theorem built_primary {expression : Production Int Int} (h : expression.Built) :
    (primary expression).Built := by
  refine (Built.matchAny _).bind fun number => ?_
  cases number with
  | true =>
    refine (Built.look _).bind fun value => ?_
    cases value with
    | none => exact .object _
    | some value => exact .pure value
  | false =>
    refine (Built.matchAny _).bind fun parenthesis => ?_
    cases parenthesis with
    | true => exact h.bind fun value => (Built.consume _ _).bind fun _ => .pure value
    | false => exact .object _

theorem built_product {expression : Production Int Int} (h : expression.Built) :
    (product expression).Built :=
  built_operation _ (built_primary h)

theorem built_nested (depth : Nat) : (nested depth).Built := by
  induction depth with
  | zero => exact built_operation _ (built_product (.object _))
  | succ depth ih => exact built_operation _ (built_product ih)

theorem built_expression : expression.Built := (Built.look _).bind built_nested

theorem built_start : start.Built := by
  refine built_expression.bind fun value => (Built.look _).bind fun atEnd => ?_
  cases atEnd with
  | true => exact .pure value
  | false => exact .object _

end Calculator

namespace Statements

theorem built_statement : statement.Built :=
  (Built.consume _ _).bind fun _ => (Built.consume _ _).bind fun name => (Built.consume _ _).bind fun _ =>
    (Built.consume _ _).bind fun _ => (Built.consume _ _).bind fun _ => .pure name.lexeme

theorem built_round : round.Built := by
  refine built_statement.caught.bind fun result => ?_
  cases result with
  | ok name => exact .pure (some name)
  | error error =>
    show Built (if error.recoverable then _ else _)
    split
    · exact (Built.synchronize _).bind fun _ => (Built.matchAny _).bind fun _ => .pure none
    · exact .throw error

theorem built_start : start.Built := by
  refine (Built.look _).bind fun fuel => ?_
  suffices h : ∀ names, (statements fuel names).Built from h []
  induction fuel with
  | zero => exact fun names => .pure names.reverse
  | succ fuel ih =>
    refine fun names => (Built.look _).bind fun atEnd => ?_
    cases atEnd with
    | true => exact .pure names.reverse
    | false =>
      refine built_round.bind fun name => ?_
      cases name with
      | some name => exact ih (name :: names)
      | none => exact ih names

end Statements

namespace Words

theorem built_start : start.Built := by
  refine (Built.look _).bind fun fuel => ?_
  suffices h : ∀ found, (words fuel found).Built from h []
  induction fuel with
  | zero => exact fun found => .pure found.reverse
  | succ fuel ih =>
    refine fun found => (Built.look _).bind fun atEnd => ?_
    cases atEnd with
    | true => exact .pure found.reverse
    | false => exact (Built.consume _ _).bind fun word => ih (word.lexeme :: found)

end Words

namespace Script

namespace Step

mutual

/-- Whether no step drops diagnostics or tokens but by attempts. -/
def keeps : Step → Bool
  | attempt body | recover body _ | loop body => keepsAll body
  | branch _ yes no => keepsAll yes && keepsAll no
  | truncate _ | takeErrors | reset => false
  | consume .. | matchAny _ | need .. | advance | soft _ | fail _ | reported _ | restore _ => true

/-- Whether none of some steps does. -/
def keepsAll : List Step → Bool
  | [] => true
  | first :: rest => keeps first && keepsAll rest

end

end Step

theorem built_rounds {body : Production Int Output} (h : body.Built) (fuel : Nat) (done : Output) :
    (rounds body fuel done).Built := by
  induction fuel generalizing done with
  | zero => exact .pure done
  | succ fuel ih =>
    refine (Built.look _).bind fun atEnd => ?_
    cases atEnd with
    | true => exact .pure done
    | false =>
      refine (Built.look _).bind fun before => h.bind fun output => (Built.look _).bind fun after => ?_
      show Built (if after = before then _ else _)
      split
      · exact .pure _
      · exact ih _

namespace Step

mutual

theorem built_run : (step : Step) → step.keeps = true → step.run.Built
  | consume .., _ => (Built.consume _ _).bind fun _ => .pure _
  | matchAny _, _ => (Built.matchAny _).bind fun _ => .pure _
  | need .., _ => (Built.matchAny _).bind fun found => match found with
    | true => .pure _
    | false => .object _
  | advance, _ => Built.advance.bind fun _ => .pure _
  | soft _, _ => (Built.addError _).bind fun _ => .pure _
  | fail _, _ => .object _
  | reported _, _ => .throw _
  | attempt body, h => (built_runAll body h).attempt.bind fun output => match output with
    | some _ => .pure _
    | none => .pure _
  | recover body categories, h => (built_runAll body h).caught.bind fun result => match result with
    | .ok _ => .pure _
    | .error error => by
      show Built (if error.recoverable then _ else _)
      split
      · exact (Built.synchronize _).bind fun _ => (Built.matchAny _).bind fun _ => .pure _
      · exact .throw error
  | loop body, h => (Built.look _).bind fun _ => built_rounds (built_runAll body h) _ _
  | branch _ yes no, h => (Built.look _).bind fun found => match found with
    | true => built_runAll yes (Bool.and_eq_true_iff.1 h).1
    | false => built_runAll no (Bool.and_eq_true_iff.1 h).2
  | restore _, _ => (Built.restore _).bind fun _ => .pure _

theorem built_runAll : (steps : List Step) → keepsAll steps = true → (runAll steps).Built
  | [], _ => .pure _
  | first :: rest, h => (built_run first (Bool.and_eq_true_iff.1 h).1).bind fun _ =>
    (built_runAll rest (Bool.and_eq_true_iff.1 h).2).bind fun _ => .pure _

end

end Step

end Script

namespace Grammar

/-- Whether a grammar drops no diagnostics but by attempts. -/
def keeps : Grammar → Bool
  | script program => Script.Step.keepsAll program
  | calculator | statements | words => true

theorem built_start {g : Grammar} (h : g.keeps = true) : g.start.Built := by
  cases g with
  | calculator => exact Calculator.built_start.map _
  | statements => exact Statements.built_start.map _
  | words => exact Words.built_start.map _
  | script program => exact (Script.Step.built_runAll program h).map _

/-- **Every rule of a grammar is built of operations**, if no script drops diagnostics. -/
theorem built_rule {g : Grammar} (h : g.keeps = true) (name : String) : (g.rule name).Built := by
  unfold rule
  split
  · exact Calculator.built_expression.map _
  · exact (Calculator.built_product Calculator.built_expression).map _
  · exact (Calculator.built_primary Calculator.built_expression).map _
  · exact Statements.built_statement.map _
  · exact built_start h

/-- **A rule keeps tokens, text and diagnostics**, also where it fails. -/
theorem growsTo_rule {g : Grammar} (h : g.keeps = true) (name : String) (s : Session Int) :
    s.cursor.GrowsTo ((g.rule name).runOn s).2.cursor :=
  (built_rule h name).growsTo s

/-- **A rule that is tried in vain leaves no trace.** -/
theorem attempt_rule {g : Grammar} (h : g.keeps = true) {name : String} {s after : Session Int}
    {e : ParseError} (hplace : s.cursor.position ≤ s.cursor.tokens.size)
    (hfails : (g.rule name).runOn s = (.error e, after)) :
    ((attempt (g.rule name)).runOn s).1 = .ok none ∧
      ((attempt (g.rule name)).runOn s).2.cursor = s.cursor :=
  runOn_attempt_built (built_rule h name) hplace hfails

end Grammar

end Descent
