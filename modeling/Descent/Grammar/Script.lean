/-
  Scripts: grammars given as data.

  A script is a list of steps over a cursor that together produce a list of texts.  Its steps are the
  cursor's operations, and what combines them: attempts, recovery, loops and conditions.  An error
  takes with it what its list of steps has produced.

  * `Step.run` and `Step.runAll` run a step and a list of steps.
-/
import Descent.Parsing.Production

namespace Descent.Script

/-- A step of a script. -/
inductive Step where
  /-- Take a token; its lexeme. -/
  | consume (category message : String)
  /-- Pass a token of some categories; whether there was one. -/
  | matchAny (categories : List String)
  /-- Pass a token of some categories, or object. -/
  | need (categories : List String) (message : String)
  /-- Pass a token; its lexeme, or a note of the end. -/
  | advance
  /-- Record a diagnostic. -/
  | soft (message : String)
  /-- Object. -/
  | fail (message : String)
  /-- Fail with diagnostics. -/
  | reported (messages : List String)
  /-- Try steps; what they produce, or that there is none. -/
  | attempt (body : List Step)
  /-- Run steps and skip to a recovery point if they fail. -/
  | recover (body : List Step) (categories : List String)
  /-- Run steps until the end, or until they pass no token. -/
  | loop (body : List Step)
  /-- Run one of two lists of steps, by the category of the current token. -/
  | branch (category : String) (yes no : List Step)
  /-- Go to a place. -/
  | restore (position : Nat)
  /-- Forget diagnostics after the first ones. -/
  | truncate (count : Nat)
  /-- The diagnostics, which are forgotten. -/
  | takeErrors
  /-- Forget tokens, place, text and diagnostics. -/
  | reset

/-- What scripts yield. -/
abbrev Output := List String

/-- Run a body until the end is reached or a round passes no token.  No round starts where an earlier
one did, unless the loop never ends, so there are no more rounds than places. -/
def rounds (body : Production Int Output) : Nat → Output → Production Int Output
  | 0, done => pure done
  | fuel + 1, done => do
    if ← .look (·.atEnd) then pure done
    else
      let before ← .look (·.position)
      let output ← body
      if (← .look (·.position)) = before then pure (done ++ output ++ ["stuck"])
      else rounds body fuel (done ++ output)

namespace Step

mutual

/-- Run a step. -/
def run : Step → Production Int Output
  | consume category message => do return [(← .consume category message).lexeme]
  | matchAny categories => do return [toString (← .matchAny categories)]
  | need categories message => do
    if ← .matchAny categories then pure [] else .object message
  | advance => do return [((← .advance).map (·.lexeme)).getD "<end>"]
  | soft message => do
    .addError message
    return []
  | fail message => .object message
  | reported messages => throw (.reported messages)
  | attempt body => do
    match ← .attempt (runAll body) with
    | some output => return "some" :: output
    | none => return ["none"]
  | recover body categories => do
    match ← .caught (runAll body) with
    | .ok output => return output
    | .error error =>
      if error.recoverable then
        let skipped ← .synchronize categories
        let _ ← .matchAny categories
        return ["skipped " ++ toString skipped]
      else throw error
  | loop body => do rounds (runAll body) ((← .look fun c => c.tokens.size) + 2) []
  | branch category yes no => do
    if ← .check category then runAll yes else runAll no
  | restore position => do
    .change (·.restore position)
    return []
  | truncate count => do
    .change (·.truncateErrors count)
    return []
  | takeErrors => do
    let errors ← .look (·.errors.toList)
    .change (·.clearErrors)
    return errors
  | reset => do
    .change (·.reset)
    return []

/-- Run a list of steps. -/
def runAll : List Step → Production Int Output
  | [] => pure []
  | first :: rest => do return (← run first) ++ (← runAll rest)

end

end Step

end Descent.Script
