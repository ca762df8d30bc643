/-
  JSON values and their compact text.

  A number is an `int` if it is a whole number written without fraction or exponent that fits a signed or
  unsigned word of 64 bits; any other number is kept as it is written.  A string that is written with half
  of a surrogate pair is no text; it is kept as it is written, and so is an object that has it as a name.

  * `Value.render` writes a value without blanks, members in the order they are held.
  * `escapeChar` writes a character of a string: quotes, backslashes and the controls below the blank
    have escapes, and nothing else has.
-/

namespace Descent.Json

/-- A JSON value. -/
inductive Value where
  | null
  | bool (b : Bool)
  | int (n : Int)
  | decimal (written : List Char)
  | str (s : String)
  | halved (written : List Char)
  | arr (items : List Value)
  | obj (members : List (String × Value))

/-- A hexadecimal digit in small letters. -/
def hexDigit (n : Nat) : Char := if n < 10 then Char.ofNat (48 + n) else Char.ofNat (87 + n)

/-- A character as it stands in a string. -/
def escapeChar (c : Char) : List Char :=
  match c with
  | '"' => ['\\', '"']
  | '\\' => ['\\', '\\']
  | '\x08' => ['\\', 'b']
  | '\t' => ['\\', 't']
  | '\n' => ['\\', 'n']
  | '\x0c' => ['\\', 'f']
  | '\r' => ['\\', 'r']
  | c =>
    if c.toNat < 0x20 then ['\\', 'u', '0', '0', hexDigit (c.toNat / 16), hexDigit (c.toNat % 16)]
    else [c]

/-- A string in its quotes. -/
def quoted (s : String) : List Char := '"' :: s.toList.flatMap escapeChar ++ ['"']

/-- The digits of a whole number. -/
def digits (n : Int) : List Char := (toString n).toList

/-- Join texts with commas. -/
def commas : List (List Char) → List Char
  | [] => []
  | [t] => t
  | t :: ts => t ++ ',' :: commas ts

namespace Value

mutual

/-- The characters of a value. -/
def chars : Value → List Char
  | null => ['n', 'u', 'l', 'l']
  | bool true => ['t', 'r', 'u', 'e']
  | bool false => ['f', 'a', 'l', 's', 'e']
  | int n => digits n
  | decimal written => written
  | str s => quoted s
  | halved written => written
  | arr items => '[' :: commas (itemTexts items) ++ [']']
  | obj members => '\x7b' :: commas (memberTexts members) ++ ['\x7d']

/-- The texts of the items of an array. -/
def itemTexts : List Value → List (List Char)
  | [] => []
  | v :: vs => chars v :: itemTexts vs

/-- The texts of the members of an object. -/
def memberTexts : List (String × Value) → List (List Char)
  | [] => []
  | (k, v) :: rest => (quoted k ++ ':' :: chars v) :: memberTexts rest

end

/-- A value without blanks. -/
def render (v : Value) : String := String.ofList v.chars

end Value

end Descent.Json
