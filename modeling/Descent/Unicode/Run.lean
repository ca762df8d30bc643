/-
  Reading tables of character properties.

  A property cuts the code points into runs of one value.  Its table is a text of words, each the
  distance from the start of the previous run followed by the value of the run: `0Cc 32Zs 1Po …`.  A
  property that holds or not has a table of bare distances, at each of which membership changes.
-/
import Descent.Text.CharSet

namespace Descent.Unicode

/-- Code points in a row that share a value. -/
structure Run where
  first : Nat
  last : Nat
  value : String

namespace Run

/-- The number that a row of decimal digits denotes. -/
def number (digits : String) : Nat :=
  digits.toList.foldl (fun n c => n * 10 + (c.toNat - '0'.toNat)) 0

/-- Turn starts and values into runs, the last of which ends with the last code point. -/
def close : List (Nat × String) → List Run
  | [] => []
  | [(first, value)] => [⟨first, CharSet.lastCode, value⟩]
  | (first, value) :: next :: rest => ⟨first, next.1 - 1, value⟩ :: close (next :: rest)

/-- The words of a table, which stand between blanks and line feeds. -/
def words (table : String) : List String :=
  ((table.toList.map fun c => if c == '\n' then ' ' else c).splitOn ' ').filterMap fun cs =>
    if cs.isEmpty then none else some (String.ofList cs)

/-- The distance and the value of a word. -/
def word (text : String) : Nat × String :=
  let cs := text.toList
  (number (String.ofList (cs.takeWhile Char.isDigit)), String.ofList (cs.dropWhile Char.isDigit))

/-- The starts and values of a list of words, from the start of the run before. -/
def starts (base : Nat) : List (Nat × String) → List (Nat × String)
  | [] => []
  | (distance, value) :: rest => (base + distance, value) :: starts (base + distance) rest

/-- Read a table of values. -/
def parse (table : String) : List Run := close (starts 0 ((words table).map word))

/-- The characters of the runs whose value is wanted. -/
def select (wanted : String → Bool) (runs : List Run) : CharSet :=
  .ofRanges ((runs.filter fun run => wanted run.value).map fun run => (run.first, run.last))

/-- The ranges between each odd and the next even place. -/
def pairs (base : Nat) : List Nat → List (Nat × Nat)
  | gap :: size :: rest => (base + gap, base + gap + size - 1) :: pairs (base + gap + size) rest
  | _ => []

/-- Read a table of bare distances. -/
def ofDistances (table : String) : CharSet :=
  .ofRanges (pairs 0 ((words table).map number))

end Run

end Descent.Unicode
