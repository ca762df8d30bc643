/-
  Text made printable: backslash escapes for quotes, controls and what has no shape of its own.

  `escape` is the form in which foreign text enters a line of output, and `quote` the form in which a
  text is shown between double quotes.  Both write a character that is not printable as its code point
  in braces.  A mark that extends the character before it is escaped where nothing precedes it: at the
  start of an escaped text, and everywhere in a quoted one.

  * `isPrintable`: everything but controls, separators other than the blank, format and private use
    characters and unassigned code points.
-/
import Descent.Unicode.Category
import Descent.Unicode.Property

namespace Descent.Text

/-- The two blocks of control codes. -/
def isControl (c : Char) : Bool := c.toNat < 0x20 || (0x7F ≤ c.toNat && c.toNat < 0xA0)

/-- Separators of lines, of paragraphs and of words, the blank excepted. -/
def isSeparator (c : Char) : Bool :=
  [0xA0, 0x1680, 0x2028, 0x2029, 0x202F, 0x205F, 0x3000].contains c.toNat ||
    (0x2000 ≤ c.toNat && c.toNat ≤ 0x200A)

/-- Format characters, private use and unassigned code points. -/
def shapeless : CharSet := Unicode.Category.set ["Cf", "Cn", "Co"]

/-- Whether a character shows as itself. -/
def isPrintable (c : Char) : Bool :=
  if c.toNat < 0x7F then 0x20 ≤ c.toNat
  else !(isControl c || isSeparator c || shapeless.has c)

/-- The marks that extend the character before them. -/
def extenders : CharSet := Unicode.Run.ofDistances Unicode.Property.graphemeExtend

/-- Whether a character extends the one before it. -/
def isExtender (c : Char) : Bool := 0x80 ≤ c.toNat && extenders.has c

/-- The code point of a character in braces. -/
def codeEscape (c : Char) : List Char :=
  ['\\', 'u', '\x7b'] ++ Nat.toDigits 16 c.toNat ++ ['\x7d']

/-- The escapes that have a letter, or are the character itself after a backslash. -/
def shortEscape? (c : Char) : Option Char :=
  match c with
  | '\x00' => some '0'
  | '\t' => some 't'
  | '\r' => some 'r'
  | '\n' => some 'n'
  | '\\' => some '\\'
  | _ => none

/-- Escape one character; `quotes` have a backslash too, and `first` tells whether an extending mark has
nothing to extend. -/
def escapeChar (quotes : List Char) (first : Bool) (c : Char) : List Char :=
  match shortEscape? c with
  | some letter => ['\\', letter]
  | none =>
    if quotes.contains c then ['\\', c]
    else if (first && isExtender c) || !isPrintable c then codeEscape c
    else [c]

/-- A list of characters with everything escaped that does not show as itself. -/
def escapeChars : List Char → List Char
  | [] => []
  | c :: cs => escapeChar ['\'', '"'] true c ++ cs.flatMap (escapeChar ['\'', '"'] false)

/-- A text with everything escaped that does not show as itself. -/
def escape (s : String) : String := String.ofList (escapeChars s.toList)

/-- A text in double quotes. -/
def quote (s : String) : String :=
  String.ofList ('"' :: s.toList.flatMap (escapeChar ['"'] true) ++ ['"'])

end Descent.Text
