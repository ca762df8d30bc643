/-
  Cutting texts into tokens.

  At each place every rule is tried, the strategy selects among the lexemes found, and the selected one
  becomes a token; the next place is after it.  The text is cut to its end or not at all.

  * `Tokenizer.addRule` registers a rule: its pattern is checked first, the room in the table second.
    `Tokenizer.addRules` registers several.
  * `Tokenizer.turn` is one turn of the loop and `Tokenizer.cutFrom` the loop itself; it has one unit of
    its budget for every token it may accept.
  * `Tokenizer.tokenize` is a whole cut, with the tokenizer as it is left and the events to log.
-/
import Descent.Config.Preferences
import Descent.Lexical.Error
import Descent.Lexical.Metrics
import Descent.Lexical.Rule
import Descent.Lexical.Token
import Descent.Log.Event
import Descent.Text.SourceMap

namespace Descent

/-- A result and the events that led to it. -/
structure Logged (α : Type) where
  value : α
  events : List Event

/-- An event for those who want every detail: none unless the least level is that of details. -/
def debugEvent (least : Level) (wanted : Bool) (message : String) (context : List (String × String)) :
    List Event :=
  if wanted && Level.debug.passes least then [(Event.debug message).withContext context] else []

/-- Rules, a strategy and settings, with what the last cut counted and where it ended. -/
structure Tokenizer (V : Type) where
  rules : Array (Rule V)
  strategy : Strategy
  preferences : LexicalPreferences
  metrics : Metrics
  position : Position

/-- A place in the text being cut: the character before it, the text after it, the bytes passed and the
position. -/
structure Scan where
  before : Option Char
  rest : List Char
  byteOffset : Nat
  position : Position

namespace Scan

/-- The start of a text. -/
def start (text : List Char) : Scan := ⟨none, text, 0, .start⟩

/-- The place after a lexeme that stands at the front of the rest. -/
def pass (s : Scan) (lexeme : List Char) : Scan where
  before := lexeme.getLast?.or s.before
  rest := s.rest.drop lexeme.length
  byteOffset := s.byteOffset + Utf8.size lexeme
  position := s.position.advanceBy lexeme

end Scan

/-- A cut under way: the place, the counts, and tokens and events so far, the latest first. -/
structure Cut (V : Type) where
  scan : Scan
  metrics : Metrics
  tokens : List (Token V)
  events : List Event

/-- What one turn of the loop comes to: a choice, and whether more than one rule matched, or a failure
with its event. -/
inductive Turn (V : Type) where
  | accept (choice : Choice V) (ambiguous : Bool)
  | fail (failure : LexicalError × Event)

/-- How a text was cut: its tokens or why it could not be cut, the tokenizer afterwards and the events. -/
structure Outcome (V : Type) where
  result : Except LexicalError (List (Token V))
  tokenizer : Tokenizer V
  events : List Event

namespace Tokenizer

variable {V : Type}

/-- A tokenizer without rules that prefers longer lexemes. -/
def new (preferences : LexicalPreferences) : Tokenizer V :=
  ⟨#[], .longest, preferences, .zero, .start⟩

/-! ## Registration -/

/-- Put a rule at the end of the table, if it has room. -/
def register (t : Tokenizer V) (least : Level) (rule : Rule V) :
    Logged (Except LexicalError (Tokenizer V)) :=
  let events := debugEvent least t.preferences.logRuleRegistration "Registering rule"
    [("category", rule.category), ("pattern", rule.pattern.source), ("index", toString t.rules.size)]
  if Limits.ruleCount ≤ t.rules.size then
    let error := LexicalError.tooManyRules (t.rules.size + 1)
    ⟨.error error, events ++ [(Event.error error.code "Rule limit exceeded").withContext
      [("limit", toString Limits.ruleCount)]]⟩
  else ⟨.ok { t with rules := t.rules.push rule }, events⟩

/-- Register a rule for a category. -/
def addRule (t : Tokenizer V) (least : Level) (category pattern : String) (transform : Option (String → V)) :
    Logged (Except LexicalError (Tokenizer V)) :=
  match Pattern.compile pattern with
  | .error e => ⟨.error (.invalidPattern category e.message), []⟩
  | .ok p => t.register least ⟨category, p, transform⟩

/-- What a rule is registered with. -/
structure RuleSpec (V : Type) where
  category : String
  pattern : String
  transform : Option (String → V)

/-- A tokenizer after registrations, and the error that ended them. -/
structure Registration (V : Type) where
  tokenizer : Tokenizer V
  error : Option LexicalError
  events : List Event

/-- Register rules in order, up to the first that is refused. -/
def addRules (t : Tokenizer V) (least : Level) : List (RuleSpec V) → Registration V
  | [] => ⟨t, none, []⟩
  | spec :: specs =>
    match t.addRule least spec.category spec.pattern spec.transform with
    | ⟨.error e, events⟩ => ⟨t, some e, events⟩
    | ⟨.ok t, events⟩ =>
      let rest := addRules t least specs
      { rest with events := events ++ rest.events }

/-! ## Cutting -/

/-- The rules with their numbers. -/
def numbered (t : Tokenizer V) : List (Rule V × Nat) := t.rules.toList.zipIdx

/-- The token of a choice at a place. -/
def token (scan : Scan) (choice : Choice V) : Token V :=
  let stop := scan.position.advanceBy choice.lexeme
  let lexeme := String.ofList choice.lexeme
  ⟨choice.rule.category, lexeme, scan.position.offset, stop.offset, stop.line, stop.column,
    choice.rule.value? lexeme⟩

/-- The character at a place of a text; a text that ends there is given a NUL. -/
def charAt (text : String) (byteOffset : Nat) : Char :=
  match Utf8.splitAt? byteOffset text.toList with
  | some (_, c :: _) => c
  | _ => '\x00'

/-- The error of a place where no rule matches. -/
def unexpected (text : String) (position : Position) : LexicalError :=
  let excerpt := (SourceMap.ofString text).excerpt position.line
  let header := s!"unexpected character at line {position.line}, column {position.column}"
  .unexpectedCharacter excerpt position.line position.column
    (caretDiagram header excerpt position.column ' ')

/-- The event of an error at a place. -/
def failure (error : LexicalError) (message : String) (position : Position)
    (context : List (String × String)) : Event :=
  ((Event.error error.code message).withSpan (.point position)).withContext context

/-- No rule matches. -/
def failUnexpected (text : String) (scan : Scan) : LexicalError × Event :=
  let error := unexpected text scan.position
  (error, failure error "No rule matches input" scan.position
    [("character", Text.escape (charAt text scan.byteOffset).toString),
      ("line", toString scan.position.line), ("column", toString scan.position.column)])

/-- The selected rule matches nothing. -/
def failZeroWidth (scan : Scan) (rule : Rule V) : LexicalError × Event :=
  let error := LexicalError.zeroWidthMatch rule.category scan.position.line scan.position.column
  (error, failure error "Selected rule matched nothing" scan.position
    [("category", rule.category), ("pattern", rule.pattern.source)])

/-- The budget is spent. -/
def failTooMany (scan : Scan) : LexicalError × Event :=
  let error := LexicalError.tooManyTokens (Limits.tokenCount + 1)
  (error, failure error "Token limit exceeded" scan.position [("limit", toString Limits.tokenCount)])

/-- Accept a choice at the present place. -/
def accept (t : Tokenizer V) (least : Level) (filter : List String) (cut : Cut V) (choice : Choice V)
    (ambiguous : Bool) : Cut V :=
  let token := token cut.scan choice
  let filtered := filter.contains token.category
  { scan := cut.scan.pass choice.lexeme
    metrics := cut.metrics.record token.category choice.lexeme.length filtered ambiguous
      t.preferences.collectDetailedMetrics
    tokens := if filtered then cut.tokens else token :: cut.tokens
    events := debugEvent least t.preferences.logTokenEvents "Token accepted"
      [("category", token.category), ("lexeme", Text.escape token.lexeme),
        ("line", toString token.line), ("column", toString token.column),
        ("filtered", toString filtered)] ++ cut.events }

/-- One turn at a place with text left: every rule is tried there. -/
def turn (t : Tokenizer V) (rules : List (Rule V × Nat)) (text : String) (scan : Scan) : Turn V :=
  let choices := Choice.all rules scan.before scan.rest
  match Choice.select? t.strategy choices with
  | none => .fail (failUnexpected text scan)
  | some choice =>
    if choice.lexeme.isEmpty then .fail (failZeroWidth scan choice.rule)
    else .accept choice (choices.length > 1)

/-- The cut of a text before the first turn. -/
def begin (t : Tokenizer V) (least : Level) (text : String) : Cut V where
  scan := .start text.toList
  metrics := .zero
  tokens := []
  events := debugEvent least true "Starting tokenization"
    [("bytes", toString text.utf8ByteSize), ("rules", toString t.rules.size),
      ("strategy", t.strategy.name)]

/-- Cut on from a place up to the end of the text or an error. -/
def cutFrom (t : Tokenizer V) (rules : List (Rule V × Nat)) (least : Level) (text : String)
    (filter : List String) : Nat → Cut V → Option (LexicalError × Event) × Cut V
  | 0, cut => if cut.scan.rest.isEmpty then (none, cut) else (some (failTooMany cut.scan), cut)
  | budget + 1, cut =>
    if cut.scan.rest.isEmpty then (none, cut)
    else
      match t.turn rules text cut.scan with
      | .fail failure => (some failure, cut)
      | .accept choice ambiguous =>
        cutFrom t rules least text filter budget (t.accept least filter cut choice ambiguous)

/-- The number of lines of a text that ends in a line: none if it is empty. -/
def lines (text : String) (position : Position) : Nat := if text.isEmpty then 0 else position.line + 1

/-- What a text is cut into when the loop has ended: in failure, or at the end of the text. -/
def conclude (t : Tokenizer V) (text : String) (failure : Option (LexicalError × Event)) (cut : Cut V) :
    Outcome V :=
  let position := cut.scan.position
  match failure with
  | some (error, event) =>
    ⟨.error error, { t with metrics := cut.metrics, position }, (event :: cut.events).reverse⟩
  | none =>
    let tokens := cut.tokens.reverse
    let metrics := { cut.metrics with linesScanned := lines text position }
    let event := (Event.success .tokenizationComplete "Tokenization completed").withContext
      [("tokens", toString tokens.length), ("filtered", toString metrics.filteredTokens),
        ("lines", toString metrics.linesScanned)]
    ⟨.ok tokens, { t with metrics, position }, (event :: cut.events).reverse⟩

/-- Cut a text; tokens of the categories in the filter are left out. -/
def tokenize (t : Tokenizer V) (least : Level) (text : String) (filter : List String) : Outcome V :=
  let (failure, cut) := t.cutFrom t.numbered least text filter Limits.tokenCount (t.begin least text)
  t.conclude text failure cut

/-- Rules, strategy and place. -/
def inspect (t : Tokenizer V) : String :=
  "Tokenizer \x7b rules: [" ++ ", ".intercalate (t.rules.toList.map Rule.inspect) ++ "], strategy: " ++
    Text.quote t.strategy.name ++ ", start: " ++ toString t.position.offset ++ ", line: " ++
    toString t.position.line ++ ", column: " ++ toString t.position.column ++ " \x7d"

end Tokenizer

/-- How many tokens there are of each category. -/
def tokenCounts {V : Type} (tokens : List (Token V)) : SortedMap Nat :=
  .count (tokens.map (·.category))

end Descent
