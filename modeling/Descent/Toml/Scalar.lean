/-
  TOML values that are written without marks: truth values, numbers and points in time.

  Such a value is one word.  Underscores may stand between digits; whole numbers are signed words of 64 bits;
  days are checked against their month.

  * `integer?`, `float?` and `isMoment` read words of one kind, and `scalar?` any word.
-/
import Descent.Text.Digits
import Descent.Text.Word
import Descent.Toml.Node

namespace Descent.Toml

/-- Characters of words. -/
def isWordChar (c : Char) : Bool :=
  c.isAlphanum || c == '+' || c == '-' || c == '_' || c == '.' || c == ':'

/-! ## Digits and signs -/

/-- The digits of a row, without the underscores between them. -/
def grouped? (base : Nat) : List Char → Option (List Char)
  | [] => none
  | [c] => if Digits.isDigit base c then some [c] else none
  | c :: '_' :: rest => if Digits.isDigit base c then (grouped? base rest).map (c :: ·) else none
  | c :: rest => if Digits.isDigit base c then (grouped? base rest).map (c :: ·) else none

/-- The digits of a whole part, which starts with no zero unless it is one. -/
def whole? : List Char → Option (List Char)
  | ['0'] => some ['0']
  | '0' :: _ => none
  | cs => grouped? 10 cs

/-- Whether there is a minus sign, and what is left without sign. -/
def unsign : List Char → Bool × List Char
  | '-' :: cs => (true, cs)
  | '+' :: cs => (false, cs)
  | cs => (false, cs)

/-! ## Whole numbers -/

/-- A whole number in a base. -/
def based? (base : Nat) (cs : List Char) : Option Int := do
  Word.signed? (← Digits.number? base (← grouped? base cs))

/-- A whole number. -/
def integer? : List Char → Option Int
  | '0' :: 'x' :: cs => based? 16 cs
  | '0' :: 'o' :: cs => based? 8 cs
  | '0' :: 'b' :: cs => based? 2 cs
  | cs => do
    let (negative, cs) := unsign cs
    let n : Int := ← Digits.number? 10 (← whole? cs)
    Word.signed? (if negative then -n else n)

/-! ## Numbers with a fraction or an exponent -/

/-- Whether a character belongs to a row of digits. -/
def isRowChar (c : Char) : Bool := Digits.isDigit 10 c || c == '_'

/-- The digits of a fraction, if there is one, and what is after it. -/
def fraction? : List Char → Option (Option (List Char) × List Char)
  | '.' :: cs => do
    let (row, rest) := cs.span isRowChar
    return (some (← grouped? 10 row), rest)
  | cs => some (none, cs)

/-- An exponent, if there is one. -/
def exponent? : List Char → Option (Option Int)
  | [] => some none
  | e :: cs => do
    if e != 'e' && e != 'E' then none
    let (negative, cs) := unsign cs
    let n : Int := ← Digits.number? 10 (← grouped? 10 cs)
    return some (if negative then -n else n)

/-- The number of a decimal; one too great to be told from the infinite is refused. -/
def decimal? (negative : Bool) (cs : List Char) : Option Double := do
  let (row, rest) := cs.span isRowChar
  let whole ← whole? row
  let (fraction, rest) ← fraction? rest
  let exponent ← exponent? rest
  if fraction.isNone && exponent.isNone then none
  let places := fraction.getD []
  let digits ← Digits.number? 10 (whole ++ places)
  let x := Double.ofDecimal negative digits (exponent.getD 0 - places.length)
  if x = .infinite false then none else some x

/-- A number that is not written as a whole one. -/
def float? (cs : List Char) : Option Double :=
  let (negative, cs) := unsign cs
  if cs = ['i', 'n', 'f'] then some (.infinite negative)
  else if cs = ['n', 'a', 'n'] then some .nan
  else decimal? negative cs

/-! ## Points in time -/

/-- A number of two digits within bounds. -/
def twoDigits? (least greatest : Nat) : List Char → Option (Nat × List Char)
  | a :: b :: rest => do
    let n ← Digits.number? 10 [a, b]
    if least ≤ n ∧ n ≤ greatest then some (n, rest) else none
  | _ => none

/-- What is after a character that must come first. -/
def after? (c : Char) : List Char → Option (List Char)
  | d :: rest => if c = d then some rest else none
  | [] => none

/-- How many days a month has. -/
def daysIn (year month : Nat) : Nat :=
  if month = 2 then
    if year % 4 = 0 ∧ (year % 100 ≠ 0 ∨ year % 400 = 0) then 29 else 28
  else if month = 4 ∨ month = 6 ∨ month = 9 ∨ month = 11 then 30
  else 31

/-- What is after a date. -/
def afterDate? : List Char → Option (List Char)
  | a :: b :: c :: d :: rest => do
    let year ← Digits.number? 10 [a, b, c, d]
    let (month, rest) ← twoDigits? 1 12 (← after? '-' rest)
    let (day, rest) ← twoDigits? 1 31 (← after? '-' rest)
    if day ≤ daysIn year month then some rest else none
  | _ => none

/-- What is after the fraction of a second, if there is one. -/
def afterFraction : List Char → List Char
  | '.' :: c :: cs => if Digits.isDigit 10 c then cs.dropWhile (Digits.isDigit 10) else '.' :: c :: cs
  | cs => cs

/-- What is after a time of day. -/
def afterTime? (cs : List Char) : Option (List Char) := do
  let (_, cs) ← twoDigits? 0 23 cs
  let (_, cs) ← twoDigits? 0 59 (← after? ':' cs)
  let (_, cs) ← twoDigits? 0 60 (← after? ':' cs)
  return afterFraction cs

/-- What is after an offset from universal time, if there is one. -/
def afterOffset? : List Char → Option (List Char)
  | c :: cs =>
    if c == 'Z' || c == 'z' then some cs
    else if c == '+' || c == '-' then do
      let (_, cs) ← twoDigits? 0 23 cs
      let (_, cs) ← twoDigits? 0 59 (← after? ':' cs)
      return cs
    else some (c :: cs)
  | [] => some []

/-- Whether a word is a point in time: a date, a time of day, or both and perhaps an offset. -/
def isMoment (cs : List Char) : Bool :=
  match afterDate? cs with
  | some [] => true
  | some (c :: rest) =>
    (c == 'T' || c == 't' || c == ' ') && ((afterTime? rest).bind afterOffset?) == some []
  | none => afterTime? cs == some []

/-! ## Words -/

/-- The value of a word. -/
def scalar? (cs : List Char) : Option Scalar :=
  if cs = ['t', 'r', 'u', 'e'] then some (.bool true)
  else if cs = ['f', 'a', 'l', 's', 'e'] then some (.bool false)
  else if isMoment cs then some .moment
  else
    match float? cs with
    | some x => some (.float x)
    | none => (integer? cs).map .int

end Descent.Toml
