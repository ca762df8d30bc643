/-
  A host: the surroundings in which texts are cut and parsed.

  A host has an environment, what is installed, and the lines that were written to its streams.  All events
  of what is done in it go to the logger that is installed.

  * `Host.start` installs everything a `Config` asks for.
  * `Host.tokenize` and `Host.parse` cut and parse a text from scratch.
-/
import Descent.Grammar.Basic
import Descent.Log.Installation

namespace Descent

/-- Environment, installation, and the lines written, the latest first. -/
structure Host where
  environment : Environment
  installation : Installation
  outputLines : List String
  errorLines : List String

namespace Host

/-- A host in which nothing is installed. -/
def new (env : Environment) : Host := ⟨env, .none, [], []⟩

/-- The level up to which details are logged. -/
def least (h : Host) : Level := h.installation.least h.environment

/-! ## Logging -/

/-- Write a line. -/
def write (h : Host) : Delivery → Host
  | .written .output line => { h with outputLines := line :: h.outputLines }
  | .written .error line => { h with errorLines := line :: h.errorLines }
  | .kept _ => h

/-- Write what becomes of events. -/
def deliver (h : Host) (ds : List Delivery) : Host := ds.foldl write h

/-- Log events at a time. -/
def log (h : Host) (events : List Event) (time : String) : Host :=
  h.deliver (h.installation.dispatch events time)

/-- Log an error, or write it out if there is no logger. -/
def report (h : Host) (code : Code) (message time : String) : Host :=
  h.deliver (h.installation.report code message time)

/-- All lines of a stream. -/
def transcript (lines : List String) : String := lines.foldr (fun line text => text ++ line ++ "\n") ""

/-! ## Installing -/

/-- Install something that events tell of; if it cannot be installed, nothing changes. -/
def install (h : Host) (result : Except InstallError (Installation × List Event)) (time : String) :
    Except InstallError Host :=
  result.map fun (installation, events) => { h with installation }.log events time

/-- Install everything. -/
def start (h : Host) (config : Config) (time : String) : Except InstallError Unit × Host :=
  let startup := h.installation.start h.environment config
  let h := { h with installation := startup.installation }.log startup.events time
  match startup.error with
  | .none => (.ok (), h)
  | some e => (.error e, h)

/-! ## Working -/

/-- Cut a text by rules. -/
def tokenize {V : Type} (h : Host) (specs : List (Tokenizer.RuleSpec V)) (text : String)
    (filter : List String) (time : String) : Except LexicalError (List (Token V)) × Host :=
  let registration := (Tokenizer.new (.ofEnvironment h.environment)).addRules h.least specs
  match registration.error with
  | some e => (.error e, h.log registration.events time)
  | none =>
    let outcome := registration.tokenizer.tokenize h.least text filter
    (outcome.result, h.log (registration.events ++ outcome.events) time)

/-- Parse a text by a grammar. -/
def parse (h : Host) (g : Grammar) (specs : List (Tokenizer.RuleSpec Int)) (text : String)
    (filter : List String) (time : String) : Except ParseError Yield × Host :=
  let registration := (Tokenizer.new (.ofEnvironment h.environment)).addRules h.least specs
  let session : Session Int := ⟨.new (.ofEnvironment h.environment), h.least, registration.events.reverse⟩
  let ((result, session), _) := Production.parseSource g.start registration.tokenizer text filter session
  (result, h.log session.events.reverse time)

end Host

end Descent
