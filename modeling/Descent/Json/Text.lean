/-
  The text of a JSON string: what stands between its quotes and what that denotes.

  Escapes of four hexadecimal digits denote code units.  Two of them that are the halves of a surrogate
  pair denote one character; a half that stands alone denotes nothing.

  * `splitQuote` cuts a text at the quote that ends a string.
  * `pieces?` reads what stands between the quotes, and `joined?` is the text, if every half has its other.
-/
import Descent.Json.Value
import Descent.Text.Digits

namespace Descent.Json

/-! ## Finding the end -/

/-- Cut a text at the first quote that no backslash escapes: what is before it, in reverse after
`passed`, and what is after it.  Control characters end the search. -/
def splitQuoteFrom (passed : List Char) : List Char → Option (List Char × List Char)
  | [] => none
  | '"' :: rest => some (passed.reverse, rest)
  | '\\' :: c :: rest => splitQuoteFrom (c :: '\\' :: passed) rest
  | c :: rest => if c.toNat < 0x20 then none else splitQuoteFrom (c :: passed) rest

/-- Cut a text at the quote that ends a string. -/
def splitQuote (cs : List Char) : Option (List Char × List Char) := splitQuoteFrom [] cs

/-! ## Escapes -/

/-- A character, or half of a surrogate pair. -/
inductive Piece where
  | char (c : Char)
  | half (unit : Nat)
deriving DecidableEq, Repr

/-- What a code unit denotes by itself. -/
def Piece.ofUnit (n : Nat) : Piece := if 0xD800 ≤ n ∧ n < 0xE000 then .half n else .char (Char.ofNat n)

/-- What a backslash and a letter denote. -/
def simpleEscape? : Char → Option Char
  | '"' => some '"'
  | '\\' => some '\\'
  | '/' => some '/'
  | 'b' => some '\x08'
  | 'f' => some '\x0c'
  | 'n' => some '\n'
  | 'r' => some '\r'
  | 't' => some '\t'
  | _ => none

/-- The pieces of what stands between quotes, after those that are `done` in reverse. -/
def piecesFrom (done : List Piece) : List Char → Option (List Piece)
  | [] => some done.reverse
  | '\\' :: 'u' :: a :: b :: c :: d :: rest =>
    match Digits.number? 16 [a, b, c, d] with
    | some n => piecesFrom (.ofUnit n :: done) rest
    | none => none
  | '\\' :: c :: rest =>
    match simpleEscape? c with
    | some e => piecesFrom (.char e :: done) rest
    | none => none
  | c :: rest => if c = '\\' then none else piecesFrom (.char c :: done) rest

/-- The pieces of what stands between quotes. -/
def pieces? (cs : List Char) : Option (List Piece) := piecesFrom [] cs

/-! ## Surrogate pairs -/

/-- The character of a surrogate pair, if its halves are in order. -/
def pair? (high low : Nat) : Option Char :=
  if high < 0xDC00 ∧ 0xDC00 ≤ low then some (Char.ofNat (0x10000 + (high - 0xD800) * 0x400 + (low - 0xDC00)))
  else none

/-- The text of pieces, after the characters that are `done` in reverse. -/
def joinFrom (done : List Char) : List Piece → Option (List Char)
  | [] => some done.reverse
  | .char c :: rest => joinFrom (c :: done) rest
  | .half high :: .half low :: rest =>
    match pair? high low with
    | some c => joinFrom (c :: done) rest
    | none => none
  | .half _ :: _ => none

/-- The text of pieces, if every half has its other. -/
def joined? (ps : List Piece) : Option (List Char) := joinFrom [] ps

end Descent.Json
