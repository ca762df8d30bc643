/-
  Reading TOML.

  The language is that of version 1.0: a document is a sequence of lines that hold a header, a key with its
  value, or nothing, and may end in a comment.

  * `string`, `dottedKey` and `value` read from the front of a `Source`, which counts the characters read.
  * `parse?` reads a whole document; a mark of the byte order in front of it does not count.
-/
import Descent.Toml.Draft
import Descent.Toml.Scalar
import Descent.Toml.Text

namespace Descent.Toml

/-- What is left of a text, and how many characters were read before. -/
structure Source where
  rest : List Char
  offset : Nat

/-- What reads from the front of a text and may fail. -/
abbrev Reader := StateT Source Option

namespace Reader

/-- How deep arrays and braces may be nested, and how many parts a dotted key may have, at most. -/
def depthLimit : Nat := 79

/-- The characters to come. -/
def rest : Reader (List Char) := do return (← get).rest

/-- The next character. -/
def peek : Reader (Option Char) := do return (← rest).head?

/-- How many characters were read. -/
def offset : Reader Nat := do return (← get).offset

/-- Pass some characters. -/
def pass (count : Nat) : Reader Unit := modify fun s => ⟨s.rest.drop count, s.offset + count⟩

/-- Read as long as characters satisfy a test. -/
def takeWhile (p : Char → Bool) : Reader (List Char) := do
  let cs := (← rest).takeWhile p
  pass cs.length
  return cs

/-- Read one character. -/
def expect (c : Char) : Reader Unit := do
  if (← peek) = some c then pass 1 else failure

/-! ## Blanks, comments and line breaks -/

/-- Pass blanks. -/
def blanks : Reader Unit := do let _ ← takeWhile isBlank

/-- Pass a comment, if there is one. -/
def comment : Reader Unit := do
  if (← peek) = some '#' then let _ ← takeWhile isPlain

/-- Pass a line break, if there is one. -/
def lineBreak : Reader Bool := do
  match ← rest with
  | '\n' :: _ => pass 1; return true
  | '\r' :: '\n' :: _ => pass 2; return true
  | _ => return false

/-- Pass the end of a line, and blanks and a comment before it. -/
def lineEnd : Reader Unit := do
  blanks
  comment
  if !(← lineBreak) && !(← rest).isEmpty then failure

/-- Pass blanks, comments and line breaks. -/
def gapFrom : (fuel : Nat) → Reader Unit
  | 0 => pure ()
  | fuel + 1 => do
    blanks
    comment
    if ← lineBreak then gapFrom fuel

/-- Pass blanks, comments and line breaks. -/
def gap : Reader Unit := do gapFrom ((← rest).length + 1)

/-! ## Strings and keys -/

/-- Read a string. -/
def string (k : StringKind) : Reader String := do
  let marks := if k.long then 3 else 1
  pass marks
  let raw ← split k (← rest)
  pass (raw.length + marks)
  decode k raw

/-- Read a string of one or three marks. -/
def anyString (mark : Char) : Reader String := do
  string ⟨mark, (← rest).take 3 = [mark, mark, mark]⟩

/-- Characters of keys without marks. -/
def isBare (c : Char) : Bool := c.isAlphanum || c == '-' || c == '_'

/-- Read a part of a key. -/
def simpleKey : Reader Key := do
  let start ← offset
  let name ← match ← peek with
    | some '"' => string ⟨'"', false⟩
    | some '\'' => string ⟨'\'', false⟩
    | _ => do
      let cs ← takeWhile isBare
      if cs.isEmpty then failure else pure (String.ofList cs)
  return ⟨name, ⟨start, ← offset⟩⟩

/-- Read the parts of a key, up to as many as there is fuel for. -/
def keyParts : (fuel : Nat) → Reader (List Key)
  | 0 => failure
  | fuel + 1 => do
    blanks
    let key ← simpleKey
    blanks
    if (← peek) = some '.' then
      pass 1
      return key :: (← keyParts fuel)
    else return [key]

/-- Read a key with the path that leads to it. -/
def dottedKey : Reader (List Key × Key) := do
  let parts ← keyParts depthLimit
  return (parts.dropLast, ← parts.getLast?)

/-! ## Values -/

/-- Read a value without marks.  A blank may stand between a date and a time of day. -/
def word : Reader Scalar := do
  let cs ← takeWhile isWordChar
  match afterDate? cs, ← rest with
  | some [], ' ' :: c :: _ =>
    if Digits.isDigit 10 c then
      pass 1
      scalar? (cs ++ ' ' :: (← takeWhile isWordChar))
    else scalar? cs
  | _, _ => scalar? cs

/-- Read a key, the sign of equality and a value. -/
def keyValue (value : Reader Node) : Reader (List Key × Key × Node) := do
  let (path, key) ← dottedKey
  expect '='
  blanks
  return (path, key, ← value)

/-- Read the items of an array and the bracket after them; those `done` come first, in reverse. -/
def items (value : Reader Node) : (fuel : Nat) → List Node → Reader (List Node)
  | 0, _ => failure
  | fuel + 1, done => do
    gap
    if (← peek) = some ']' then
      pass 1
      return done.reverse
    let item ← value
    gap
    if (← peek) = some ',' then
      pass 1
      items value fuel (item :: done)
    else
      expect ']'
      return (item :: done).reverse

/-- Read the entries of braces and the brace after them, and add them to a table. -/
def entries (value : Reader Node) : (fuel : Nat) → Node → Reader Node
  | 0, _ => failure
  | fuel + 1, t => do
    let (path, key, v) ← keyValue value
    let t ← t.add path key v
    blanks
    if (← peek) = some ',' then
      pass 1
      entries value fuel t
    else
      expect '\x7d'
      return t

/-- Read braces. -/
def braces (value : Reader Node) : Reader Node := do
  pass 1
  blanks
  let t := Node.emptyTable none .braces
  if (← peek) = some '\x7d' then
    pass 1
    return t
  else entries value ((← rest).length + 1) t

/-- Give a table the stretch from a start up to here. -/
def stretched (start : Nat) (t : Node) : Reader Node := do
  match t with
  | .table _ origin es => return .table (some ⟨start, ← offset⟩) origin es
  | t => return t

/-- Read a value.  What reads the values in it is given, unless there is no more room for nesting. -/
def valueWith (inner : Option (Reader Node)) : Reader Node := do
  let start ← offset
  match ← peek, inner with
  | some '"', _ => do
    let s ← anyString '"'
    return .leaf ⟨start, ← offset⟩ (.str s)
  | some '\'', _ => do
    let s ← anyString '\''
    return .leaf ⟨start, ← offset⟩ (.str s)
  | some '[', some value => do
    pass 1
    let is ← items value ((← rest).length + 1) []
    return .array ⟨start, ← offset⟩ is
  | some '\x7b', some value => do stretched start (← braces value)
  | _, _ => do
    let s ← word
    return .leaf ⟨start, ← offset⟩ s

/-- Read a value in which arrays and braces are nested no deeper than `depth`. -/
def valueAt : (depth : Nat) → Reader Node
  | 0 => valueWith none
  | depth + 1 => valueWith (some (valueAt depth))

/-- Read a value. -/
def value : Reader Node := valueAt depthLimit

/-! ## Documents -/

/-- Read a header, in one or two brackets, and begin its table. -/
def header (d : Draft) : Reader Draft := do
  let start ← offset
  let repeated := (← rest).take 2 = ['[', '[']
  pass (if repeated then 2 else 1)
  let (path, key) ← dottedKey
  expect ']'
  if repeated then expect ']'
  let extent := ⟨start, ← offset⟩
  lineEnd
  d.begin? repeated (path ++ [key]) extent

/-- Read a line with a key and a value. -/
def assignment (d : Draft) : Reader Draft := do
  let (path, key, v) ← keyValue value
  let stop ← offset
  lineEnd
  d.add path key v stop

/-- Read one line. -/
def line (d : Draft) : Reader Draft := do
  match ← peek with
  | some '[' => header d
  | some c =>
    if c == '#' || c == '\n' || c == '\r' then
      lineEnd
      return d
    else assignment d
  | none => return d

/-- Read lines up to the end. -/
def lines : (fuel : Nat) → Draft → Reader Draft
  | 0, d => return d
  | fuel + 1, d => do
    blanks
    if (← rest).isEmpty then return d
    else lines fuel (← line d)

/-- Read a document.  Every line passes a character. -/
def document : Reader Node := do
  if (← peek) = some '\ufeff' then pass 1
  let d ← lines ((← rest).length + 1) .empty
  d.close

end Reader

/-- Read a document. -/
def parse? (text : String) : Option Node := (Reader.document.run ⟨text.toList, 0⟩).map (·.1)

end Descent.Toml
