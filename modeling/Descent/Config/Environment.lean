/-
  Environment variables.

  An `Environment` says which variables are set and to what.  `Variable` names those that are read.
-/

namespace Descent

/-- The variables that are set. -/
structure Environment where
  bindings : List (String × String)

/-- The variables that settings are read from. -/
inductive Variable where
  | detailedMetrics
  | logRules
  | logTokens
  | markerFiller
  | logCursor
  | useStructured
  | enableConsole
  | minLevel
deriving DecidableEq, Repr

namespace Variable

/-- The variables in order. -/
def all : List Variable :=
  [detailedMetrics, logRules, logTokens, markerFiller, logCursor, useStructured, enableConsole, minLevel]

/-- The name of a variable. -/
def name : Variable → String
  | detailedMetrics => "RDP_LEXICAL_DETAILED_METRICS"
  | logRules => "RDP_LEXICAL_LOG_RULES"
  | logTokens => "RDP_LEXICAL_LOG_TOKENS"
  | markerFiller => "RDP_SYNTAX_MARKER_FILLER"
  | logCursor => "RDP_SYNTAX_LOG_CURSOR"
  | useStructured => "RDP_LOGGING_USE_STRUCTURED"
  | enableConsole => "RDP_LOGGING_ENABLE_CONSOLE"
  | minLevel => "RDP_LOGGING_MIN_LEVEL"

end Variable

namespace Environment

/-- No variable is set. -/
def empty : Environment := ⟨[]⟩

/-- The value of a variable; of two settings the later one counts. -/
def get? (env : Environment) (v : Variable) : Option String :=
  (env.bindings.reverse.find? fun b => b.1 == v.name).map (·.2)

/-- Set a variable. -/
def set (env : Environment) (name value : String) : Environment := ⟨env.bindings ++ [(name, value)]⟩

/-- Read a truth value, which is spelled `true` or `false` and in no other way. -/
def readBool? : String → Option Bool
  | "true" => some true
  | "false" => some false
  | _ => none

/-- The truth value of a variable. -/
def bool? (env : Environment) (v : Variable) : Option Bool := (env.get? v).bind readBool?

/-- The first character of a variable. -/
def char? (env : Environment) (v : Variable) : Option Char := (env.get? v).bind fun s => s.toList.head?

end Environment

end Descent
