/-
  Log events, as a line of text and as a JSON object.

  An event has a level, a code, a message, and where it matters a span of source text and named details.
  Messages are cut to `Limits.messageLength` characters when the event is made, before the byte at which the
  next one starts; details are held in the order of their names, and a later value of a name replaces an
  earlier one.

  * `Event.render` is one line for people.
  * `Event.json` is an object with its members in the order of their names; the time is not part of the
    event and comes from whoever writes it out.
-/
import Descent.Config.Limits
import Descent.Json.Value
import Descent.Log.Code
import Descent.Log.Level
import Descent.Text.Position
import Descent.Text.SortedMap
import Descent.Text.Utf8

namespace Descent

/-- The byte at which a message is cut: where the first character that there is no room for starts. -/
def messageCut? (message : String) : Option Nat := Utf8.start? message.toList Limits.messageLength

/-- Cut a message; dots stand for what is left out.  The bytes before the cut are always characters. -/
def truncateMessage (message : String) : String :=
  match messageCut? message with
  | some cut => String.ofList ((Utf8.slice? message.toList 0 cut).getD []) ++ "..."
  | none => message

/-- Something that happened. -/
structure Event where
  level : Level
  code : Code
  message : String
  span : Option Span
  context : SortedMap String
deriving DecidableEq, Repr

namespace Event

/-- An event without span and details. -/
def ofMessage (level : Level) (code : Code) (message : String) : Event :=
  ⟨level, code, truncateMessage message, none, .empty⟩

/-- An error. -/
def error (code : Code) (message : String) : Event := ofMessage .error code message

/-- A warning with a code. -/
def warningWith (code : Code) (message : String) : Event := ofMessage .warning code message

/-- A warning. -/
def warning (message : String) : Event := warningWith .genericWarning message

/-- Information. -/
def info (message : String) : Event := ofMessage .info .genericInfo message

/-- Information about a success, with its code. -/
def success (code : Code) (message : String) : Event := ofMessage .info code message

/-- A detail of the work. -/
def debug (message : String) : Event := ofMessage .debug .genericDebug message

/-- Say where in the source the event belongs. -/
def withSpan (e : Event) (span : Span) : Event := { e with span := some span }

/-- Add details. -/
def withContext (e : Event) (pairs : List (String × String)) : Event :=
  { e with context := pairs.foldl (fun m p => m.insert p.1 p.2) e.context }

/-- The severity of the event's code. -/
def severity (e : Event) : Severity := e.code.severity

/-- The category of the event's code. -/
def category (e : Event) : String := e.code.category

/-- Where the event belongs, as text. -/
def place (e : Event) : String :=
  match e.span with
  | some span => " at " ++ span.start.render
  | none => ""

/-- The details as text. -/
def details (e : Event) : String :=
  match e.context.entries with
  | [] => ""
  | pairs => " (" ++ ", ".intercalate (pairs.map fun p => p.1 ++ "=" ++ p.2) ++ ")"

/-- The event on one line. -/
def render (e : Event) : String :=
  "[" ++ e.level.label ++ "] " ++ e.code.text ++ " - " ++ e.message ++ e.place ++ e.details

/-- The details as an object. -/
def contextMember (e : Event) : List (String × Json.Value) :=
  match e.context.entries with
  | [] => []
  | pairs => [("context", .obj (pairs.map fun p => (p.1, .str p.2)))]

/-- What is known about the code of an error. -/
def errorMember (e : Event) : List (String × Json.Value) :=
  if e.level = .error then
    [("error_metadata", .obj [
      ("description", .str e.code.description),
      ("recoverable", .bool e.code.recoverable),
      ("requires_halt", .bool e.code.requiresHalt)])]
  else []

/-- The lines and columns of the span. -/
def spanMember (e : Event) : List (String × Json.Value) :=
  match e.span with
  | none => []
  | some span => [("span", .obj [
      ("end_column", .int span.stop.column),
      ("end_line", .int span.stop.line),
      ("start_column", .int span.start.column),
      ("start_line", .int span.start.line)])]

/-- The event at a time as an object. -/
def json (e : Event) (time : String) : Json.Value :=
  .obj ([("category", .str e.category), ("code", .str e.code.text)] ++ e.contextMember ++ e.errorMember ++
    [("level", .str e.level.label), ("message", .str e.message), ("severity", .str e.severity.name)] ++
    e.spanMember ++ [("timestamp", .str time)])

end Event

end Descent
