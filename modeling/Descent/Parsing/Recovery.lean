/-
  Recovering from an error: skipping to a token from which a grammar can go on.

  `Cursor.synchronize` skips tokens up to one of some categories, up to the end, or up to
  `Limits.recoveryScan` of them, and `Recovery` says which it was.

  * `Recovery.event` is the event of a recovery; each way to end has its own.
-/
import Descent.Log.Event
import Descent.Parsing.Cursor

namespace Descent

/-- Why skipping stopped. -/
inductive RecoveryEnd where
  /-- A token of a wanted category is current. -/
  | found
  /-- All tokens are passed. -/
  | reachedEnd
  /-- The limit was reached. -/
  | exhausted
deriving DecidableEq, Repr

/-- A recovery: the cursor afterwards, how many tokens were skipped and why skipping stopped. -/
structure Recovery (V : Type) where
  cursor : Cursor V
  skipped : Nat
  ending : RecoveryEnd

namespace Cursor

variable {V : Type}

/-- Skip up to `budget` tokens, `skipped` of which were skipped before. -/
def skipTo (categories : List String) : (budget skipped : Nat) → Cursor V → Recovery V
  | 0, skipped, c => ⟨c, skipped, .exhausted⟩
  | budget + 1, skipped, c =>
    if c.atEnd then ⟨c, skipped, .reachedEnd⟩
    else if c.checkAny categories then ⟨c, skipped, .found⟩
    else skipTo categories budget (skipped + 1) { c with position := c.position + 1 }

/-- Skip to a token of one of some categories, which is not passed. -/
def synchronize (c : Cursor V) (categories : List String) : Recovery V :=
  skipTo categories Limits.recoveryScan 0 c

end Cursor

/-- The event of a recovery that began at a place. -/
def Recovery.event {V : Type} (r : Recovery V) (start : Nat) : Event :=
  match r.ending with
  | .found => (Event.success .recoveryComplete "Found recovery point").withContext
      [("start_position", toString start), ("skipped_tokens", toString r.skipped)]
  | .exhausted =>
    (Event.error .recoveryScanExhausted "Recovery scan limit reached without finding recovery point").withContext
      [("tokens_scanned", toString r.skipped)]
  | .reachedEnd => (Event.warning "No recovery point found, reached end of input").withContext
      [("tokens_scanned", toString r.skipped)]

end Descent
