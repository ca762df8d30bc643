/-
  What is installed for all: logging preferences and a logger, each of them once.

  Until there are preferences, those of the environment count.  Until there is a logger, events are lost,
  except for errors that are too grave for that.

  * `Installation.start` installs the preferences of a `Config`, then a logger made by them, checks the codes
    of the parts and logs their limits.  It stops at what is installed already; what it installed before that
    stays.
  * `Installation.dispatch` is what becomes of events.
  * `Installation.report` says an error in any case.
-/
import Descent.Lexical.Tokenizer
import Descent.Log.Service

namespace Descent

/-- Preferences and logger, as far as they are installed. -/
structure Installation where
  preferences : Option LoggingPreferences
  logger : Option Service
deriving DecidableEq, Repr

/-- Why installing failed. -/
inductive InstallError where
  /-- There are preferences already. -/
  | preferences
  /-- There is a logger already. -/
  | logger
  /-- A memory would keep too few events. -/
  | smallBuffer (size : Nat)
  /-- Nothing would be kept of a message. -/
  | emptyMessages
  /-- A part logs errors with a code that is not registered. -/
  | unregistered (part : String) (code : Code)
deriving DecidableEq, Repr

/-- The message to people. -/
def InstallError.message : InstallError → String
  | preferences => "Runtime preferences already initialized"
  | logger => "Global logger already initialized"
  | smallBuffer size => s!"Configuration validation failed: Log buffer size too small: {size}"
  | emptyMessages => "Configuration validation failed: Maximum log message length must be positive"
  | unregistered part code => part ++ " error code " ++ code.text ++ " not found in metadata registry"

/-- What installing everything comes to: what is installed afterwards, the events to dispatch, and the error
that ended it. -/
structure Startup where
  installation : Installation
  events : List Event
  error : Option InstallError

namespace Installation

/-- Nothing is installed. -/
def none : Installation := ⟨.none, .none⟩

/-- The preferences that count. -/
def effective (s : Installation) (env : Environment) : LoggingPreferences :=
  s.preferences.getD (.ofEnvironment env)

/-- The level up to which details are logged. -/
def least (s : Installation) (env : Environment) : Level := (s.effective env).minLevel

/-! ## Installing -/

/-- Install preferences. -/
def installPreferences (s : Installation) (p : LoggingPreferences) : Except InstallError Installation :=
  if s.preferences.isSome then .error .preferences else .ok { s with preferences := some p }

/-- Install a logger. -/
def installLogger (s : Installation) (service : Service) : Except InstallError Installation :=
  if s.logger.isSome then .error .logger else .ok { s with logger := some service }

/-- Whether the limits on logging make sense. -/
def checkLimits : Except InstallError Unit :=
  if Limits.logBuffer < 100 then .error (.smallBuffer Limits.logBuffer)
  else if Limits.messageLength = 0 then .error .emptyMessages
  else .ok ()

/-- Whether the codes of a part are registered. -/
def checkCodes (part : String) (codes : List Code) : Except InstallError Unit :=
  match codes.find? fun code => code.info?.isNone with
  | some code => .error (.unregistered part code)
  | .none => .ok ()

/-- Install the logger that the preferences ask for; it is the first to hear of it. -/
def startLogging (s : Installation) (env : Environment) : Except InstallError (Installation × List Event) := do
  checkLimits
  let s ← s.installLogger (.ofPreferences (s.effective env))
  return (s, [.success .initializationCompleted "Global logging system initialized"])

/-- The limits on texts and rules, for those who want every detail. -/
def lexicalLimits (least : Level) : List Event :=
  debugEvent least true "Lexical limits initialized"
    [("max_token_count", toString Limits.tokenCount), ("max_rule_count", toString Limits.ruleCount)]

/-- The limit on recovery, for those who want every detail. -/
def cursorLimits (least : Level) : List Event :=
  debugEvent least true "Syntax limits initialized"
    [("max_recovery_scan_tokens", toString Limits.recoveryScan)]

/-- Check the codes of cutting texts and tell of its limits. -/
def startLexical (least : Level) : Except InstallError (List Event) := do
  checkCodes "Lexical" Code.lexical
  return lexicalLimits least

/-- Check the codes of walking tokens and tell of its limit. -/
def startCursor (least : Level) : Except InstallError (List Event) := do
  checkCodes "Syntax" Code.parsing
  return cursorLimits least

/-- Install everything, up to the first step that fails. -/
def start (s : Installation) (env : Environment) (config : Config) : Startup :=
  match s.installPreferences config.logging with
  | .error e => ⟨s, [], some e⟩
  | .ok s =>
    match s.startLogging env with
    | .error e => ⟨s, [], some e⟩
    | .ok (s, events) =>
      match startLexical (s.least env) with
      | .error e => ⟨s, events, some e⟩
      | .ok lexical =>
        match startCursor (s.least env) with
        | .error e => ⟨s, events ++ lexical, some e⟩
        | .ok cursor => ⟨s, events ++ lexical ++ cursor, .none⟩

/-! ## Logging -/

/-- What becomes of events at a time. -/
def dispatch (s : Installation) (events : List Event) (time : String) : List Delivery :=
  match s.logger with
  | some service => events.filterMap fun e => service.deliver e time
  | .none => []

/-- Log an error; without a logger it is written out. -/
def report (s : Installation) (code : Code) (message : String) (time : String) : List Delivery :=
  match s.logger with
  | some _ => s.dispatch [.error code message] time
  | .none => [.written .error ("[ERROR] FALLBACK: [" ++ code.text ++ "] " ++ message)]

/-! ## Descriptions -/

/-- The settings of logging, one on a line. -/
def summary (s : Installation) (env : Environment) : String :=
  let p := s.effective env
  "\n".intercalate [
    "Logging Configuration:",
    "- Log buffer size: " ++ toString Limits.logBuffer,
    "- Max message length: " ++ toString Limits.messageLength,
    "- Min log level: " ++ p.minLevel.title,
    "- Structured logging: " ++ toString p.useStructured,
    "- Console logging: " ++ toString p.enableConsole]

/-- Whether there is a logger, and the settings of logging. -/
def diagnostics (s : Installation) (env : Environment) : String :=
  "=== Logging System Diagnostics ===\nInitialized: " ++ toString s.logger.isSome ++ "\n\n" ++ s.summary env

end Installation

end Descent
