/-
  Reading JSON.

  The grammar is the strict one: no comments, no commas after the last item, no blanks but the four of the
  grammar, and nothing after the value.  Objects keep their members in order, also those of one name.

  * `number?`, `string?` and `value?` read from the front of a text and give what is left of it.
  * `parse?` reads a whole text.
-/
import Descent.Json.Text
import Descent.Text.Word

namespace Descent.Json

/-- The blanks. -/
def isBlank (c : Char) : Bool := c == ' ' || c == '\n' || c == '\t' || c == '\r'

/-- What is left after blanks. -/
def skipBlanks (cs : List Char) : List Char := cs.dropWhile isBlank

/-! ## Numbers -/

/-- Whether a character is a decimal digit. -/
def isDigit (c : Char) : Bool := Digits.isDigit 10 c

/-- The whole part of a number: one zero, or digits that do not start with one. -/
def whole? : List Char → Option (List Char × List Char)
  | '0' :: rest => if (rest.head?.any isDigit) then none else some (['0'], rest)
  | cs => if (cs.takeWhile isDigit).isEmpty then none else some (cs.span isDigit)

/-- The digits after a mark, which must not be missing. -/
def digitsAfter? (mark rest : List Char) : Option (List Char × List Char) :=
  if (rest.takeWhile isDigit).isEmpty then none
  else some (mark ++ rest.takeWhile isDigit, rest.dropWhile isDigit)

/-- The fraction of a number, if there is one. -/
def fraction? : List Char → Option (List Char × List Char)
  | '.' :: rest => digitsAfter? ['.'] rest
  | cs => some ([], cs)

/-- The exponent of a number, if there is one. -/
def exponent? : List Char → Option (List Char × List Char)
  | e :: sign :: rest =>
    if e == 'e' || e == 'E' then
      if sign == '+' || sign == '-' then digitsAfter? [e, sign] rest else digitsAfter? [e] (sign :: rest)
    else some ([], e :: sign :: rest)
  | [e] => if e == 'e' || e == 'E' then none else some ([], [e])
  | [] => some ([], [])

/-- The value of a number that is written in parts.  Minus zero is not whole. -/
def numberValue (negative : Bool) (whole rest : List Char) : Value :=
  let written := (if negative then ['-'] else []) ++ whole ++ rest
  let n := (Digits.number? 10 whole).getD 0
  if !rest.isEmpty then .decimal written
  else if negative then
    if n = 0 ∨ Word.signedLimit < n then .decimal written else .int (-(n : Int))
  else if Word.limit ≤ n then .decimal written
  else .int n

/-- Read a number without its sign. -/
def unsigned? (negative : Bool) (cs : List Char) : Option (Value × List Char) := do
  let (whole, cs) ← whole? cs
  let (fraction, cs) ← fraction? cs
  let (exponent, cs) ← exponent? cs
  return (numberValue negative whole (fraction ++ exponent), cs)

/-- Read a number. -/
def number? : List Char → Option (Value × List Char)
  | '-' :: cs => unsigned? true cs
  | cs => unsigned? false cs

/-! ## Strings -/

/-- Read a string after its opening quote: what is between the quotes, and its text, if it is one. -/
def string? (cs : List Char) : Option ((List Char × Option String) × List Char) := do
  let (written, rest) ← splitQuote cs
  let pieces ← pieces? written
  return ((written, (joined? pieces).map String.ofList), rest)

/-- The value of a string. -/
def stringValue : List Char × Option String → Value
  | (_, some text) => .str text
  | (written, none) => .halved ('"' :: written ++ ['"'])

/-- Read the name of a member and the colon after it. -/
def name? (cs : List Char) : Option (Option String × List Char) :=
  match skipBlanks cs with
  | '"' :: cs => do
    let ((_, name), cs) ← string? cs
    match skipBlanks cs with
    | ':' :: cs => some (name, cs)
    | _ => none
  | _ => none

/-! ## Values -/

/-- The value of an object that starts at `cs` and ends before `rest`. -/
def objectValue (cs rest : List Char) (members : List (Option String × Value)) : Value :=
  match members.mapM fun m => m.1.map fun name => (name, m.2) with
  | some members => .obj members
  | none => .halved (cs.take (cs.length - rest.length))

mutual

/-- Read a value. -/
def value? : Nat → List Char → Option (Value × List Char)
  | 0, _ => none
  | fuel + 1, cs =>
    match skipBlanks cs with
    | 'n' :: 'u' :: 'l' :: 'l' :: rest => some (.null, rest)
    | 't' :: 'r' :: 'u' :: 'e' :: rest => some (.bool true, rest)
    | 'f' :: 'a' :: 'l' :: 's' :: 'e' :: rest => some (.bool false, rest)
    | '"' :: rest => (string? rest).map fun r => (stringValue r.1, r.2)
    | '[' :: rest =>
      match skipBlanks rest with
      | ']' :: rest => some (.arr [], rest)
      | rest => (items? fuel [] rest).map fun r => (.arr r.1, r.2)
    | '\x7b' :: rest =>
      match skipBlanks rest with
      | '\x7d' :: rest => some (.obj [], rest)
      | body => (members? fuel [] body).map fun r => (objectValue ('\x7b' :: rest) r.2 r.1, r.2)
    | rest => number? rest

/-- Read the items of an array and the bracket after them; those `done` come first, in reverse. -/
def items? : Nat → List Value → List Char → Option (List Value × List Char)
  | 0, _, _ => none
  | fuel + 1, done, cs =>
    match value? fuel cs with
    | none => none
    | some (v, cs) =>
      match skipBlanks cs with
      | ',' :: rest => items? fuel (v :: done) rest
      | ']' :: rest => some ((v :: done).reverse, rest)
      | _ => none

/-- Read the members of an object and the brace after them; those `done` come first, in reverse. -/
def members? : Nat → List (Option String × Value) → List Char →
    Option (List (Option String × Value) × List Char)
  | 0, _, _ => none
  | fuel + 1, done, cs =>
    match name? cs with
    | none => none
    | some (name, cs) =>
      match value? fuel cs with
      | none => none
      | some (v, cs) =>
        match skipBlanks cs with
        | ',' :: rest => members? fuel ((name, v) :: done) rest
        | '\x7d' :: rest => some (((name, v) :: done).reverse, rest)
        | _ => none

end

/-- Read a whole text.  Each character adds no more than two steps to the depth of reading. -/
def parse? (text : String) : Option Value :=
  let cs := text.toList
  match value? (2 * cs.length + 2) cs with
  | some (v, rest) => if (skipBlanks rest).isEmpty then some v else none
  | none => none

end Descent.Json
