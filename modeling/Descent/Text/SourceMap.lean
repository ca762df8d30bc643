/-
  A text with its lines, and diagrams that point into it.

  `SourceMap.ofString` notes the byte at which each line starts; a line runs up to the byte before the
  next start, and one carriage return at its end is not shown.

  * `SourceMap.line?` is undefined past the last line; where it is defined, the bytes between two starts
    are cut out of the text.
  * `caretDiagram` stacks a message, a line and a marker under one of its columns.
-/
import Descent.Text.Utf8

namespace Descent

/-- A line of fillers with a caret under the given column. -/
def caretMarker (column : Nat) (filler : Char) : String :=
  String.ofList (List.replicate column filler ++ ['^'])

/-- A message, the line it is about and a marker under one of its columns. -/
def caretDiagram (message excerpt : String) (column : Nat) (filler : Char) : String :=
  message ++ "\n" ++ excerpt ++ "\n" ++ caretMarker column filler

/-- A text and the bytes at which its lines start. -/
structure SourceMap where
  source : String
  lineStarts : Array Nat
deriving DecidableEq

namespace SourceMap

/-- Pass a character: the byte after it, and the lines started so far. -/
def passChar (state : Nat × Array Nat) (c : Char) : Nat × Array Nat :=
  let next := state.1 + c.utf8Size
  (next, if c = '\n' then state.2.push next else state.2)

/-- Index a text by line. -/
def ofString (source : String) : SourceMap :=
  ⟨source, (source.toList.foldl passChar (0, #[0])).2⟩

/-- The number of lines; an empty text and a text that ends in a line feed have an empty last one. -/
def lineCount (m : SourceMap) : Nat := m.lineStarts.size

/-- Drop one carriage return from the end. -/
def dropReturn (cs : List Char) : List Char := if cs.getLast? = some '\r' then cs.dropLast else cs

/-- A line without its end. -/
def line? (m : SourceMap) (line : Nat) : Option String := do
  let start ← m.lineStarts[line]?
  let stop := match m.lineStarts[line + 1]? with
    | some next => next - 1
    | none => Utf8.size m.source.toList
  let piece ← Utf8.slice? m.source.toList start stop
  return String.ofList (dropReturn piece)

/-- A line to show; past the last one there is nothing to show. -/
def excerpt (m : SourceMap) (line : Nat) : String := (m.line? line).getD ""

/-- A diagram that points at a column of a line. -/
def diagram (m : SourceMap) (message : String) (line column : Nat) (filler : Char) : String :=
  caretDiagram message (m.excerpt line) column filler

end SourceMap

end Descent
