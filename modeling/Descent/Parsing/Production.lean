/-
  Productions: rules of a grammar as programs over a cursor.

  A production changes the cursor, emits events and yields a value or an error; after an error the
  cursor stays as it was left.  `Session` is what it works on.

  * `advance`, `matchAny`, `consume`, `synchronize` and their like are the cursor's operations as
    productions.
  * `attempt` takes back what a production did to the cursor if it fails.
  * `parse` loads tokens and runs a start rule, `parseStrict` fails on recorded diagnostics too, and
    `parseSource` cuts a text first.
-/
import Descent.Lexical.Tokenizer
import Descent.Parsing.Recovery

namespace Descent

/-- A cursor, the level of detail that is wanted and the events so far, the latest first. -/
structure Session (V : Type) where
  cursor : Cursor V
  least : Level
  events : List Event

/-- A rule of a grammar. -/
abbrev Production (V α : Type) := ExceptT ParseError (StateM (Session V)) α

namespace Production

variable {V α : Type}

/-- Run a production: its result and the session afterwards. -/
def runOn (p : Production V α) (s : Session V) : Except ParseError α × Session V := p s

/-- What is seen of the cursor. -/
def look (f : Cursor V → α) : Production V α := fun s => (.ok (f s.cursor), s)

/-- Change the cursor. -/
def change (f : Cursor V → Cursor V) : Production V Unit := fun s => (.ok (), { s with cursor := f s.cursor })

/-- The event of passing a token, if steps are logged. -/
def movement (least : Level) (before after : Cursor V) : List Event :=
  if before.position < after.position then
    match before.current with
    | some token => debugEvent least before.preferences.logCursorMovement "Cursor advanced"
        [("position", toString after.position), ("category", token.category),
          ("lexeme", Text.escape token.lexeme)]
    | none => []
  else []

/-- An operation of the cursor that may pass one token. -/
def step (op : Cursor V → Except ParseError α × Cursor V) : Production V α := fun s =>
  let (result, cursor) := op s.cursor
  (result, { s with cursor, events := movement s.least s.cursor cursor ++ s.events })

/-- Pass the current token. -/
def advance : Production V (Option (Token V)) := step fun c => (.ok c.advance.1, c.advance.2)

/-- Pass the current token if it has one of some categories. -/
def matchAny (categories : List String) : Production V Bool :=
  step fun c => (.ok (c.matchAny categories).1, (c.matchAny categories).2)

/-- Take a token of a category. -/
def consume (category message : String) : Production V (Token V) := step fun c => c.consume category message

/-- Whether the current token has a category. -/
def check (category : String) : Production V Bool := look (·.check category)

/-- Skip to a recovery point; the number of tokens skipped. -/
def synchronize (categories : List String) : Production V Nat := fun s =>
  let recovery := s.cursor.synchronize categories
  (.ok recovery.skipped,
    { s with cursor := recovery.cursor, events := recovery.event s.cursor.position :: s.events })

/-- Record a diagnostic. -/
def addError (message : String) : Production V Unit := change (·.addError message)

/-- Fail with an objection. -/
def object (message : String) : Production V α := fun s => (.error (s.cursor.objection message), s)

/-- Run a production whose error is a result too. -/
def caught (p : Production V α) : Production V (Except ParseError α) := fun s =>
  let (result, s) := p s
  (.ok result, s)

/-- Run a production that may fail without a trace on the cursor: place and diagnostics are then those
of before. -/
def attempt (p : Production V α) : Production V (Option α) := fun s =>
  match p s with
  | (.ok value, after) => (.ok (some value), after)
  | (.error error, after) =>
    let events := debugEvent s.least true "Speculative parse failed, restoring checkpoint"
      [("position", toString s.cursor.position), ("error", error.plain)]
    (.ok none, { after with
      cursor := (after.cursor.restore s.cursor.position).truncateErrors s.cursor.errors.size
      events := events ++ after.events })

/-- The event that ends a parse. -/
def closing (result : Except ParseError α) (cursor : Cursor V) : Event :=
  match result with
  | .ok _ => (Event.success .parseComplete "Syntax analysis completed").withContext
      [("tokens_consumed", toString cursor.position), ("soft_errors", toString cursor.errors.size)]
  | .error error => (Event.error error.code "Syntax analysis failed").withContext
      [("error", error.plain), ("position", toString cursor.position)]

/-- Load tokens and run a start rule. -/
def parse (start : Production V α) (tokens : Array (Token V)) (source : Option String) : Production V α :=
  fun s =>
    let opening := debugEvent s.least true "Starting syntax analysis" [("tokens", toString tokens.size)]
    let (result, s) := start { s with cursor := s.cursor.load tokens source, events := opening ++ s.events }
    (result, { s with events := closing result s.cursor :: s.events })

/-- Load tokens and run a start rule, which must not record diagnostics. -/
def parseStrict (start : Production V α) (tokens : Array (Token V)) (source : Option String) :
    Production V α := fun s =>
  match parse start tokens source s with
  | (.ok value, s) =>
    if s.cursor.errors.isEmpty then (.ok value, s) else (.error (.reported s.cursor.errors.toList), s)
  | (.error error, s) => (.error error, s)

/-- Cut a text and hand its tokens on; the tokenizer afterwards comes with the result.  If the text
cannot be cut, the cursor is not touched. -/
def fromText (handOn : Array (Token V) → Option String → Production V α) (tokenizer : Tokenizer V)
    (text : String) (filter : List String) (s : Session V) :
    (Except ParseError α × Session V) × Tokenizer V :=
  let outcome := tokenizer.tokenize s.least text filter
  let s := { s with events := outcome.events.reverse ++ s.events }
  (match outcome.result with
    | .ok tokens => handOn tokens.toArray (some text) s
    | .error error => (.error (.lexical error), s), outcome.tokenizer)

/-- Cut a text and parse its tokens. -/
def parseSource (start : Production V α) := fromText (parse start)

/-- Cut a text and parse its tokens strictly. -/
def parseSourceStrict (start : Production V α) := fromText (parseStrict start)

end Production

end Descent
