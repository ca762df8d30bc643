/-
  TOML strings.

  There are four kinds: quotes or apostrophes, which differ in whether backslashes escape, one or three of
  them, which differ in whether line breaks are allowed.

  * `splitShort` and `splitLong` cut a text at the end of a string.
  * `decode` reads what stands between the marks, and `trimBreak` drops the break at the start of a long
    string.
-/
import Descent.Text.Digits

namespace Descent.Toml

/-- How a string is written. -/
structure StringKind where
  /-- The mark around it. -/
  mark : Char
  /-- Whether there are three marks on each side. -/
  long : Bool
deriving DecidableEq, Repr

/-- Whether backslashes escape: they do between quotes. -/
def StringKind.escapes (k : StringKind) : Bool := k.mark == '"'

/-- Blanks within a line. -/
def isBlank (c : Char) : Bool := c == ' ' || c == '\t'

/-- Characters that may stand in strings and comments: all but the controls; the tab is none. -/
def isPlain (c : Char) : Bool := c == '\t' || (0x20 ≤ c.toNat && c.toNat != 0x7f)

/-! ## Finding the end -/

/-- What is before the next mark, in reverse after `taken`. -/
def splitShort (k : StringKind) (taken : List Char) : List Char → Option (List Char)
  | [] => none
  | c :: rest =>
    if c = k.mark then some taken.reverse
    else if k.escapes ∧ c = '\\' then
      match rest with
      | d :: rest => splitShort k (d :: c :: taken) rest
      | [] => none
    else splitShort k (c :: taken) rest

/-- The marks that belong to a long string, of those that follow three marks at its end. -/
def extraMarks (mark : Char) : List Char → List Char
  | a :: b :: _ => if a = mark then (if b = mark then [mark, mark] else [mark]) else []
  | [a] => if a = mark then [mark] else []
  | [] => []

/-- What is before the next three marks, in reverse after `taken`.  Up to two more marks before them belong
to the string. -/
def splitLong (k : StringKind) (taken : List Char) : List Char → Option (List Char)
  | [] => none
  | c :: rest =>
    if c = k.mark ∧ rest.take 2 = [k.mark, k.mark] then
      some (taken.reverse ++ extraMarks k.mark (rest.drop 2))
    else if k.escapes ∧ c = '\\' then
      match rest with
      | d :: rest => splitLong k (d :: c :: taken) rest
      | [] => none
    else splitLong k (c :: taken) rest

/-- What stands between the marks of a string. -/
def split (k : StringKind) (cs : List Char) : Option (List Char) :=
  if k.long then splitLong k [] cs else splitShort k [] cs

/-! ## Reading it -/

/-- Drop a line break. -/
def trimBreak : List Char → List Char
  | '\n' :: rest => rest
  | '\r' :: '\n' :: rest => rest
  | cs => cs

/-- Whether a line ends here, blanks aside. -/
def endsLine (cs : List Char) : Bool :=
  match cs.dropWhile isBlank with
  | '\n' :: _ | '\r' :: '\n' :: _ => true
  | _ => false

/-- What a backslash and a letter denote. -/
def simpleEscape? : Char → Option Char
  | 'b' => some '\x08'
  | 't' => some '\t'
  | 'n' => some '\n'
  | 'f' => some '\x0c'
  | 'r' => some '\r'
  | '"' => some '"'
  | '\\' => some '\\'
  | _ => none

/-- The text between apostrophes, after what is `done` in reverse. -/
def literalFrom (long : Bool) (done : List Char) : List Char → Option (List Char)
  | [] => some done.reverse
  | '\r' :: '\n' :: rest => if long then literalFrom long ('\n' :: done) rest else none
  | c :: rest => if isPlain c || (long && c == '\n') then literalFrom long (c :: done) rest else none

/-- The text between quotes, after what is `done` in reverse.  While `skipping`, blanks and line breaks do
not count: a backslash at the end of a line joins it to what comes next. -/
def escapedFrom (long skipping : Bool) (done : List Char) : List Char → Option (List Char)
  | [] => some done.reverse
  | '\r' :: '\n' :: rest =>
    if skipping then escapedFrom long true done rest
    else if long then escapedFrom long false ('\n' :: done) rest
    else none
  | '\\' :: 'u' :: a :: b :: c :: d :: rest =>
    match (Digits.number? 16 [a, b, c, d]).bind Digits.char? with
    | some x => escapedFrom long false (x :: done) rest
    | none => none
  | '\\' :: 'U' :: a :: b :: c :: d :: e :: f :: g :: h :: rest =>
    match (Digits.number? 16 [a, b, c, d, e, f, g, h]).bind Digits.char? with
    | some x => escapedFrom long false (x :: done) rest
    | none => none
  | '\\' :: x :: rest =>
    if long && endsLine (x :: rest) then escapedFrom long true done (x :: rest)
    else
      match simpleEscape? x with
      | some y => escapedFrom long false (y :: done) rest
      | none => none
  | c :: rest =>
    if skipping && (isBlank c || c == '\n') then escapedFrom long true done rest
    else if c != '\\' && (isPlain c || (long && c == '\n')) then escapedFrom long false (c :: done) rest
    else none

/-- The text between the marks. -/
def decode (k : StringKind) (cs : List Char) : Option String :=
  let cs := if k.long then trimBreak cs else cs
  (if k.escapes then escapedFrom k.long false [] cs else literalFrom k.long [] cs).map String.ofList

end Descent.Toml
