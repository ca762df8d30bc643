/-
  Settings out of TOML documents.

  A document may set the settings of three sections.  A section is a table of settings by name, or an array
  of them in order; names that are not known and items that are too many do not count, and what is not set
  keeps its default.  Values are looked at in the order of the document, and the first that does not fit is
  the error.

  * `Section.read` reads a section, given its `Setting`s.
  * `Config.ofNode` reads all sections of a document, and `Config.ofToml` those of a text.
  * `Mismatch.message` says what is wrong with a value.
-/
import Descent.Config.Preferences
import Descent.Decimal.Shortest
import Descent.Text.Escape
import Descent.Toml.Diagnostic
import Descent.Toml.Reader

namespace Descent

open Toml (Extent Key Node Scalar)

/-! ## What can be wrong with a value -/

/-- Why a value does not fit. -/
inductive Mismatch where
  /-- It is of another kind. -/
  | kind (found wanted : String)
  /-- It is of the right kind, but not one of the values allowed. -/
  | value (found wanted : String)
  /-- No level has this name. -/
  | unknownLevel (name : String)
  /-- Levels are texts or tables. -/
  | noLevel
  /-- A level that is a table has exactly one entry. -/
  | noEntry
  | manyEntries
  /-- The value of that entry must be empty. -/
  | fullTable
  | fullArray
  /-- The value of that entry must be a table or an array. -/
  | noTable (found : String)
deriving DecidableEq, Repr

namespace Mismatch

/-- A word in the marks that set it off. -/
def ticked (word : String) : String := "`" ++ word ++ "`"

/-- What is wrong. -/
def message : Mismatch → String
  | kind found wanted => "invalid type: " ++ found ++ ", expected " ++ wanted
  | value found wanted => "invalid value: " ++ found ++ ", expected " ++ wanted
  | unknownLevel name =>
    "unknown variant " ++ ticked name ++ ", expected one of " ++
      ", ".intercalate (Level.all.map fun level => ticked level.name)
  | noLevel => "wanted string or table"
  | noEntry => "wanted exactly 1 element, found 0 elements"
  | manyEntries => "wanted exactly 1 element, more than 1 element"
  | fullTable => "expected empty table"
  | fullArray => "expected empty array"
  | noTable found => "expected table, found " ++ found

end Mismatch

/-- A value that does not fit, with its stretch of the text. -/
structure Misfit where
  extent : Extent
  reason : Mismatch
deriving DecidableEq, Repr

/-- What reads a value; it is told the stretch to name if the value has none of its own. -/
abbrev Decoder (α : Type) := Extent → Node → Except Misfit α

/-! ## Single values -/

namespace Toml.Scalar

/-- A value as messages show it. -/
def shown : Scalar → String
  | str s => "string " ++ Text.quote s
  | int n => "integer " ++ Mismatch.ticked (toString n)
  | float x => "floating point " ++ Mismatch.ticked x.render
  | bool b => "boolean " ++ Mismatch.ticked (toString b)
  | moment => "map"

/-- The kind of a value. -/
def kind : Scalar → String
  | str _ => "string"
  | int _ => "integer"
  | float _ => "float"
  | bool _ => "boolean"
  | moment => "datetime"

end Toml.Scalar

namespace Toml.Node

/-- A value as messages show it. -/
def shown : Node → String
  | leaf _ scalar => scalar.shown
  | array .. | tables _ => "sequence"
  | table .. => "map"

end Toml.Node

namespace Decoder

/-- The stretch to name for a value. -/
def place (fallback : Extent) (n : Node) : Extent := n.extent?.getD fallback

/-- Refuse a value. -/
def refuse {α : Type} (fallback : Extent) (n : Node) (reason : Mismatch) : Except Misfit α :=
  .error ⟨place fallback n, reason⟩

/-- Read a truth value. -/
def bool : Decoder Bool
  | _, .leaf _ (.bool b) => .ok b
  | fallback, n => refuse fallback n (.kind n.shown "a boolean")

/-- Read a text of one character. -/
def char : Decoder Char
  | fallback, .leaf extent (.str s) =>
    match s.toList with
    | [c] => .ok c
    | _ => refuse fallback (.leaf extent (.str s)) (.value (Scalar.str s).shown "a character")
  | fallback, n => refuse fallback n (.kind n.shown "a character")

/-- Read the name of a level. -/
def levelName (extent : Extent) (name : String) : Except Misfit Level :=
  match Level.ofName? name with
  | some level => .ok level
  | none => .error ⟨extent, .unknownLevel name⟩

/-- Check the value that stands beside the name of a level, which has to be empty. -/
def nothing (fallback : Extent) (n : Node) : Except Misfit Unit :=
  match n with
  | .table _ _ [] | .array _ [] => .ok ()
  | .table .. | .array .. => refuse fallback n .fullTable
  | .tables items => if items.isEmpty then .ok () else refuse fallback n .fullArray
  | .leaf _ scalar => refuse fallback n (.noTable scalar.kind)

/-- Read a level: a text, or a table with the name of the level as its only key. -/
def level : Decoder Level
  | _, .leaf extent (.str s) => levelName extent s
  | fallback, .table extent _ [(key, n)] => do
    let level ← levelName key.extent key.name
    nothing (extent.getD fallback) n
    return level
  | fallback, .table extent origin [] => refuse fallback (.table extent origin []) .noEntry
  | fallback, .table extent origin entries => refuse fallback (.table extent origin entries) .manyEntries
  | fallback, n => refuse fallback n .noLevel

end Decoder

/-! ## Sections -/

/-- A setting of a section: its name, and how its value is taken over. -/
structure Setting (σ : Type) where
  name : String
  put : σ → Extent → Node → Except Misfit σ

namespace Setting

/-- The setting of a name whose value is read and written into the section. -/
def new {σ α : Type} (name : String) (read : Decoder α) (write : σ → α → σ) : Setting σ :=
  ⟨name, fun s fallback n => (read fallback n).map (write s)⟩

end Setting

/-- The settings of a section, and the word for it in messages. -/
structure Section (σ : Type) where
  title : String
  settings : List (Setting σ)

namespace Section

variable {σ : Type}

/-- Take over an entry, if its name is known. -/
def putEntry (sec : Section σ) (s : σ) (entry : Key × Node) : Except Misfit σ :=
  match sec.settings.find? fun setting => setting.name == entry.1.name with
  | some setting => setting.put s entry.1.extent entry.2
  | none => .ok s

/-- Take over the items of an array in the order of the settings. -/
def putItems (fallback : Extent) (s : σ) : List (Setting σ) → List Node → Except Misfit σ
  | setting :: settings, item :: items => do
    putItems fallback (← setting.put s fallback item) settings items
  | _, _ => .ok s

/-- Read a section.  A point in time counts as a table of unknown names. -/
def read (sec : Section σ) (default : σ) : Decoder σ
  | _, .table _ _ entries => entries.foldlM sec.putEntry default
  | fallback, .array _ items | fallback, .tables items => putItems fallback default sec.settings items
  | _, .leaf _ .moment => .ok default
  | fallback, n => Decoder.refuse fallback n (.kind n.shown ("struct " ++ sec.title))

end Section

namespace LexicalPreferences

/-- The settings of tokenizers. -/
def sections : Section LexicalPreferences := ⟨"LexicalPreferences", [
  .new "collect_detailed_metrics" Decoder.bool fun p b => { p with collectDetailedMetrics := b },
  .new "log_rule_registration" Decoder.bool fun p b => { p with logRuleRegistration := b },
  .new "log_token_events" Decoder.bool fun p b => { p with logTokenEvents := b }]⟩

end LexicalPreferences

namespace CursorPreferences

/-- The settings of cursors. -/
def sections : Section CursorPreferences := ⟨"SyntaxPreferences", [
  .new "marker_filler" Decoder.char fun p c => { p with markerFiller := c },
  .new "log_cursor_movement" Decoder.bool fun p b => { p with logCursorMovement := b }]⟩

end CursorPreferences

namespace LoggingPreferences

/-- The settings of logging. -/
def sections : Section LoggingPreferences := ⟨"LoggingPreferences", [
  .new "use_structured_logging" Decoder.bool fun p b => { p with useStructured := b },
  .new "enable_console_logging" Decoder.bool fun p b => { p with enableConsole := b },
  .new "min_log_level" Decoder.level fun p level => { p with minLevel := level }]⟩

end LoggingPreferences

namespace Config

/-- The sections of a document.  What a section does not set has its default. -/
def sections (default : Config) : Section Config := ⟨"RuntimeConfig", [
  .new "lexical" (LexicalPreferences.sections.read default.lexical) fun c p => { c with lexical := p },
  .new "syntax" (CursorPreferences.sections.read default.cursor) fun c p => { c with cursor := p },
  .new "logging" (LoggingPreferences.sections.read default.logging) fun c p => { c with logging := p }]⟩

/-- Read the settings of a document. -/
def ofNode (env : Environment) (document : Node) : Except Misfit Config :=
  (sections (ofEnvironment env)).read (ofEnvironment env) ⟨0, 0⟩ document

end Config

/-! ## Texts and files -/

/-- Why a file cannot be read. -/
inductive FileFault where
  | missing
  | directory
  | notText
deriving DecidableEq, Repr

/-- What the operating system says, or what is said for it. -/
def FileFault.message : FileFault → String
  | missing => "No such file or directory (os error 2)"
  | directory => "Is a directory (os error 21)"
  | notText => "stream did not contain valid UTF-8"

/-- Why there are no settings. -/
inductive ConfigError where
  /-- The file cannot be read. -/
  | unreadable (path : String) (fault : FileFault)
  /-- The text is no document. -/
  | malformed
  /-- A value of the document does not fit. -/
  | misfit (text : String) (misfit : Misfit)
deriving DecidableEq, Repr

namespace ConfigError

/-- The message to people; what exactly a text that is no document lacks is not said. -/
def message : ConfigError → String
  | unreadable path fault => s!"Failed to read configuration file '{path}': {fault.message}"
  | malformed => "Invalid configuration"
  | misfit text m => "Invalid configuration: " ++ Toml.diagnose text m.extent m.reason.message

end ConfigError

namespace Config

/-- Read the settings of a text. -/
def ofToml (env : Environment) (text : String) : Except ConfigError Config :=
  match Toml.parse? text with
  | none => .error .malformed
  | some document =>
    match ofNode env document with
    | .ok config => .ok config
    | .error m => .error (.misfit text m)

/-- Read the settings of a file, given its bytes or why there are none. -/
def ofFile (env : Environment) (path : String) (contents : Except FileFault ByteArray) :
    Except ConfigError Config :=
  match contents with
  | .error fault => .error (.unreadable path fault)
  | .ok bytes =>
    match String.fromUTF8? bytes with
    | some text => ofToml env text
    | none => .error (.unreadable path .notText)

end Config

end Descent
