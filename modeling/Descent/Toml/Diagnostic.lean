/-
  Showing where a document goes wrong.

  A diagnostic names line and column, shows the line behind its number, and puts carets under the stretch
  that is meant, as far as it is on that line.

      TOML parse error at line 2, column 17
        |
      2 | marker_filler = 12
        |                 ^^
      invalid type: integer `12`, expected a character

  Columns count characters and stretches bytes, so there are carets to spare under characters of more than
  one byte.
-/
import Descent.Text.Position
import Descent.Text.Utf8
import Descent.Toml.Node

namespace Descent.Toml

/-- The characters of a stretch. -/
def Extent.slice (e : Extent) (cs : List Char) : List Char := (cs.drop e.start).take (e.stop - e.start)

/-- The line of a text that a place is on, without the line feed at its end. -/
def lineAt (cs : List Char) (place : Position) : List Char :=
  (cs.drop (place.offset - place.column)).takeWhile (· != '\n')

/-- How many carets there are under a stretch: one for each byte that is on its first line, and one at
least. -/
def caretCount (lineBytes column extentBytes : Nat) : Nat := max 1 (min extentBytes (lineBytes - column))

/-- A message about a stretch of a text. -/
def diagnose (text : String) (e : Extent) (message : String) : String :=
  let cs := text.toList
  let place := Position.start.advanceBy (cs.take e.start)
  let line := lineAt cs place
  let number := toString (place.line + 1)
  let margin := "".pushn ' ' (number.length + 1) ++ "|"
  let carets := caretCount (Utf8.size line) place.column (Utf8.size (e.slice cs))
  "TOML parse error at line " ++ number ++ ", column " ++ toString (place.column + 1) ++ "\n" ++
    margin ++ "\n" ++ number ++ " | " ++ String.ofList line ++ "\n" ++
    margin ++ "".pushn ' ' (place.column + 1) ++ "".pushn '^' carets ++ "\n" ++ message ++ "\n"

end Descent.Toml
