/-
  The JSON forms of positions, spans, tokens and settings.

  Every type has an encoder into objects, with the fields in order, and a decoder.  Positions, spans and
  tokens must have all their fields, but for the value of a token in an object; settings that are
  missing have the values that the environment gives them.
-/
import Descent.Config.Preferences
import Descent.Json.Fields
import Descent.Lexical.Token

namespace Descent.Json

/-! ## Positions and spans -/

def ofPosition (p : Position) : Value :=
  .obj [("offset", .int p.offset), ("line", .int p.line), ("column", .int p.column)]

def position? (v : Value) : Option Position := do
  match ← fields? true ["offset", "line", "column"] v with
  | [offset, line, column] => return ⟨← required word? offset, ← required word? line, ← required word? column⟩
  | _ => none

def ofSpan (s : Span) : Value := .obj [("start", ofPosition s.start), ("end", ofPosition s.stop)]

def span? (v : Value) : Option Span := do
  match ← fields? true ["start", "end"] v with
  | [start, stop] => return ⟨← required position? start, ← required position? stop⟩
  | _ => none

/-! ## Tokens -/

/-- The fields of a token in order. -/
def tokenFields : List String := ["category", "lexeme", "start", "end", "line", "column", "value"]

def ofToken {V : Type} (ofValue : V → Value) (t : Token V) : Value :=
  .obj [("category", .str t.category), ("lexeme", .str t.lexeme), ("start", .int t.start), ("end", .int t.stop),
    ("line", .int t.line), ("column", .int t.column), ("value", (t.value.map ofValue).getD .null)]

def token? {V : Type} (value? : Value → Option V) (v : Value) : Option (Token V) := do
  match ← fields? true tokenFields v with
  | [category, lexeme, start, stop, line, column, value] =>
    return ⟨← required text? category, ← required text? lexeme, ← required word? start, ← required word? stop,
      ← required word? line, ← required word? column, ← orElse none (nullable? value?) value⟩
  | _ => none

/-! ## Levels -/

def ofLevel (level : Level) : Value := .str level.name

/-- A level is its name, or an object that has its name as the name of a null. -/
def level? : Value → Option Level
  | .str name => Level.ofName? name
  | .obj [(name, .null)] => Level.ofName? name
  | _ => none

/-! ## Settings -/

def ofLexicalPreferences (p : LexicalPreferences) : Value :=
  .obj [("collect_detailed_metrics", .bool p.collectDetailedMetrics),
    ("log_rule_registration", .bool p.logRuleRegistration), ("log_token_events", .bool p.logTokenEvents)]

def lexicalPreferences? (env : Environment) (v : Value) : Option LexicalPreferences := do
  let default := LexicalPreferences.ofEnvironment env
  match ← fields? false ["collect_detailed_metrics", "log_rule_registration", "log_token_events"] v with
  | [metrics, rules, tokens] =>
    return ⟨← orElse default.collectDetailedMetrics bool? metrics, ← orElse default.logRuleRegistration bool? rules,
      ← orElse default.logTokenEvents bool? tokens⟩
  | _ => none

def ofCursorPreferences (p : CursorPreferences) : Value :=
  .obj [("marker_filler", .str p.markerFiller.toString), ("log_cursor_movement", .bool p.logCursorMovement)]

def cursorPreferences? (env : Environment) (v : Value) : Option CursorPreferences := do
  let default := CursorPreferences.ofEnvironment env
  match ← fields? false ["marker_filler", "log_cursor_movement"] v with
  | [filler, movement] =>
    return ⟨← orElse default.markerFiller char? filler, ← orElse default.logCursorMovement bool? movement⟩
  | _ => none

def ofLoggingPreferences (p : LoggingPreferences) : Value :=
  .obj [("use_structured_logging", .bool p.useStructured), ("enable_console_logging", .bool p.enableConsole),
    ("min_log_level", ofLevel p.minLevel)]

def loggingPreferences? (env : Environment) (v : Value) : Option LoggingPreferences := do
  let default := LoggingPreferences.ofEnvironment env
  match ← fields? false ["use_structured_logging", "enable_console_logging", "min_log_level"] v with
  | [structured, console, least] =>
    return ⟨← orElse default.useStructured bool? structured, ← orElse default.enableConsole bool? console,
      ← orElse default.minLevel level? least⟩
  | _ => none

def ofConfig (c : Config) : Value :=
  .obj [("lexical", ofLexicalPreferences c.lexical), ("syntax", ofCursorPreferences c.cursor),
    ("logging", ofLoggingPreferences c.logging)]

def config? (env : Environment) (v : Value) : Option Config := do
  let default := Config.ofEnvironment env
  match ← fields? false ["lexical", "syntax", "logging"] v with
  | [lexical, cursor, logging] =>
    return ⟨← orElse default.lexical (lexicalPreferences? env) lexical,
      ← orElse default.cursor (cursorPreferences? env) cursor,
      ← orElse default.logging (loggingPreferences? env) logging⟩
  | _ => none

end Descent.Json
