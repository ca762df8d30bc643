/-
  Log levels, from the gravest to the most talkative.

  A minimum level lets through every level up to its own: `Level.passes`.
-/

namespace Descent

/-- How grave an event is. -/
inductive Level where
  | error
  | warning
  | info
  | debug
deriving DecidableEq, Repr

namespace Level

/-- The place of a level, the gravest first. -/
def rank : Level → Nat
  | error => 0
  | warning => 1
  | info => 2
  | debug => 3

/-- The levels in order. -/
def all : List Level := [error, warning, info, debug]

/-- Whether a minimum level lets a level through. -/
def passes (level least : Level) : Bool := level.rank ≤ least.rank

/-- The word that opens a log line. -/
def label : Level → String
  | error => "ERROR"
  | warning => "WARN"
  | info => "INFO"
  | debug => "DEBUG"

/-- The word for a level in settings. -/
def name : Level → String
  | error => "error"
  | warning => "warning"
  | info => "info"
  | debug => "debug"

/-- The word for a level in a summary of settings. -/
def title : Level → String
  | error => "Error"
  | warning => "Warning"
  | info => "Info"
  | debug => "Debug"

/-- The level with a given name. -/
def ofName? (name : String) : Option Level := all.find? fun level => level.name == name

/-- Read a level as people write it: its name or number in any case. -/
def read? (text : String) : Option Level :=
  match text.toLower with
  | "error" | "0" => some error
  | "warning" | "warn" | "1" => some warning
  | "info" | "2" => some info
  | "debug" | "3" => some debug
  | _ => none

@[simp] theorem ofName?_name (level : Level) : ofName? level.name = some level := by
  cases level <;> rfl

end Level

end Descent
