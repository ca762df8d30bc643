/-
  Settings that may change from run to run.

  Three groups of settings, for cutting texts, for walking tokens and for logging, make up a `Config`.
  `ofEnvironment` gives each setting the value of its variable, or its default where the variable is not
  set or cannot be read.
-/
import Descent.Config.Environment
import Descent.Log.Level

namespace Descent

/-- Settings of tokenizers. -/
structure LexicalPreferences where
  /-- Count tokens by category. -/
  collectDetailedMetrics : Bool
  /-- Log every registration of a rule. -/
  logRuleRegistration : Bool
  /-- Log every accepted token. -/
  logTokenEvents : Bool
deriving DecidableEq, Repr

/-- Settings of cursors. -/
structure CursorPreferences where
  /-- The character that fills a marker line up to its caret. -/
  markerFiller : Char
  /-- Log every step of a cursor. -/
  logCursorMovement : Bool
deriving DecidableEq, Repr

/-- Settings of logging. -/
structure LoggingPreferences where
  /-- Write events as JSON. -/
  useStructured : Bool
  /-- Write events at all. -/
  enableConsole : Bool
  /-- The least grave level that is written. -/
  minLevel : Level
deriving DecidableEq, Repr

/-- All settings. -/
structure Config where
  lexical : LexicalPreferences
  cursor : CursorPreferences
  logging : LoggingPreferences
deriving DecidableEq, Repr

namespace LexicalPreferences

def ofEnvironment (env : Environment) : LexicalPreferences where
  collectDetailedMetrics := (env.bool? .detailedMetrics).getD false
  logRuleRegistration := (env.bool? .logRules).getD false
  logTokenEvents := (env.bool? .logTokens).getD false

end LexicalPreferences

namespace CursorPreferences

def ofEnvironment (env : Environment) : CursorPreferences where
  markerFiller := (env.char? .markerFiller).getD ' '
  logCursorMovement := (env.bool? .logCursor).getD false

end CursorPreferences

namespace LoggingPreferences

def ofEnvironment (env : Environment) : LoggingPreferences where
  useStructured := (env.bool? .useStructured).getD false
  enableConsole := (env.bool? .enableConsole).getD true
  minLevel := ((env.get? .minLevel).bind Level.read?).getD .info

end LoggingPreferences

namespace Config

def ofEnvironment (env : Environment) : Config where
  lexical := .ofEnvironment env
  cursor := .ofEnvironment env
  logging := .ofEnvironment env

end Config

end Descent
