/-
  Patterns as programs.

  A `Program` is a numbered list of steps; a step reads a character, tests a condition, or splits into
  two steps of which the first is preferred.  `Program.ofExpr` writes one from an expression, from the
  end backwards: each part is given the step to go on with.

  A repetition without end whose body may be empty is written as an optional repetition of at least one
  round.  Only so does an empty round give way to what follows the loop in the right order.
-/
import Descent.Pattern.Expr

namespace Descent.Pattern

/-- A step of a program. -/
inductive Step where
  /-- A match ends here. -/
  | accept
  /-- Read a character of the set and go on. -/
  | char (set : CharSet) (next : Nat)
  /-- Go on if the condition holds. -/
  | look (look : Look) (next : Nat)
  /-- Go on with the first step, and with the second one where that leads nowhere. -/
  | split (first second : Nat)
deriving DecidableEq, Repr

/-- Numbered steps, and the one to begin with. -/
structure Program where
  steps : Array Step
  start : Nat
deriving Repr

namespace Program

/-- Write a part of a program before the step `next`: the steps with those of the part, and where the
part begins. -/
abbrev Writer := (next : Nat) → Array Step → Array Step × Nat

/-- Add a step. -/
def add (step : Step) (steps : Array Step) : Array Step × Nat := (steps.push step, steps.size)

/-- A split that prefers another round if it is greedy. -/
def fork (greedy : Bool) (round stop : Nat) : Step := if greedy then .split round stop else .split stop round

/-- A part, `n` times. -/
def copies (part : Writer) : Nat → Writer
  | 0, next, steps => (steps, next)
  | n + 1, next, steps =>
    let (steps, next) := part next steps
    copies part n next steps

/-- At most `n` rounds, each of which may stop at `stop`. -/
def optional (part : Writer) (greedy : Bool) (stop : Nat) : Nat → Writer
  | 0, next, steps => (steps, next)
  | n + 1, next, steps =>
    let (steps, round) := part next steps
    let (steps, next) := add (fork greedy round stop) steps
    optional part greedy stop n next steps

/-- At least one round: the place that decides on another round, and the part before it. -/
def loop (part : Writer) (greedy : Bool) : Writer := fun next steps =>
  let (steps, again) := add .accept steps
  let (steps, round) := part again steps
  (steps.setIfInBounds again (fork greedy round next), round)

/-- Any number of rounds of a part that reads something. -/
def star (part : Writer) (greedy : Bool) : Writer := fun next steps =>
  let (steps, again) := add .accept steps
  let (steps, round) := part again steps
  (steps.setIfInBounds again (fork greedy round next), again)

/-- Any number of rounds. -/
def anyRounds (part : Writer) (mayBeEmpty greedy : Bool) : Writer := fun next steps =>
  if mayBeEmpty then
    let (steps, round) := loop part greedy next steps
    add (fork greedy round next) steps
  else star part greedy next steps

/-- Write an expression. -/
def write : Expr → Writer
  | .empty, next, steps => (steps, next)
  | .one s, next, steps => add (.char s next) steps
  | .look l, next, steps => add (.look l next) steps
  | .seq a b, next, steps =>
    let (steps, next) := write b next steps
    write a next steps
  | .alt a b, next, steps =>
    let (steps, second) := write b next steps
    let (steps, first) := write a next steps
    add (.split first second) steps
  | .group e, next, steps => write e next steps
  | .many e least none greedy, next, steps =>
    if least = 0 then anyRounds (write e) e.mayBeEmpty greedy next steps
    else
      let (steps, next) := loop (write e) greedy next steps
      copies (write e) (least - 1) next steps
  | .many e least (some most) greedy, next, steps =>
    let (steps, next) := optional (write e) greedy next (most - least) next steps
    copies (write e) least next steps

/-- The program of an expression. -/
def ofExpr (e : Expr) : Program :=
  let (steps, start) := write e 0 #[.accept]
  ⟨steps, start⟩

end Program

end Descent.Pattern
