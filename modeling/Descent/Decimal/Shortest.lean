/-
  The shortest decimal of a number of double precision.

  The decimals that round to a number are an interval around it, whose ends belong to it if the mantissa is
  even.  Of the decimals in it those with the fewest digits are looked for, and of these the nearest to the
  number; a tie goes to the greater one.

  * `Double.onGrid?` looks on the multiples of one power of ten, where only the neighbours of the number
    can be nearest.
  * `Double.render` writes the decimal out, without a power of ten and with a point.
-/
import Descent.Decimal.Double

namespace Descent.Double

/-- A number with the ends of its interval, over a common denominator. -/
structure Interval where
  low : Nat
  value : Nat
  high : Nat
  den : Nat
  closed : Bool

/-- The interval of a mantissa and an exponent.  Below a power of two the next number is only half as
far as above it. -/
def interval (mantissa : Nat) (exponent : Int) : Interval :=
  let below := if mantissa = 1 <<< (precision - 1) ∧ leastExponent < exponent then 1 else 2
  let (unit, den) := scale 1 1 (exponent - 2)
  ⟨(4 * mantissa - below) * unit, 4 * mantissa * unit, (4 * mantissa + 2) * unit, den, mantissa % 2 = 0⟩

/-- The interval counted in units of a power of ten. -/
def Interval.inUnits (i : Interval) (power : Int) : Interval :=
  if 0 ≤ power then { i with den := i.den * Nat.pow 10 power.toNat }
  else
    let factor := Nat.pow 10 (-power).toNat
    { i with low := i.low * factor, value := i.value * factor, high := i.high * factor }

/-- Whether a whole number is in an interval. -/
def Interval.has (i : Interval) (n : Nat) : Bool :=
  if i.closed then i.low ≤ n * i.den && n * i.den ≤ i.high else i.low < n * i.den && n * i.den < i.high

/-- The whole number in an interval that is nearest to the value, if there is one. -/
def Interval.nearest? (i : Interval) : Option Nat :=
  let n := i.value / i.den
  match 0 < n && i.has n, i.has (n + 1) with
  | true, true => some (if 2 * i.value < (2 * n + 1) * i.den then n else n + 1)
  | true, false => some n
  | false, true => some (n + 1)
  | false, false => none

/-- The multiple of a power of ten that stands for a number, if there is one. -/
def onGrid? (mantissa : Nat) (exponent power : Int) : Option (Nat × Int) :=
  (((interval mantissa exponent).inUnits power).nearest?).map fun n => (n, power)

/-- The powers of ten that are tried, the greatest first. -/
def powers : List Int := (List.range 635).map fun (i : Nat) => (309 : Int) - i

/-- Digits and power of ten of the shortest decimal. -/
def shortest (mantissa : Nat) (exponent : Int) : Nat × Int :=
  if mantissa = 0 then (0, 0) else (powers.findSome? (onGrid? mantissa exponent)).getD (0, 0)

/-- Digits times a power of ten, written with a point and at least one digit on both sides of it. -/
def positional (digits : Nat) (power : Int) : String :=
  let text := toString digits
  if 0 ≤ power then text ++ "".pushn '0' power.toNat ++ ".0"
  else
    let places := (-power).toNat
    let padded := "".pushn '0' (places + 1 - text.length) ++ text
    let cs := padded.toList
    String.ofList (cs.take (cs.length - places)) ++ "." ++ String.ofList (cs.drop (cs.length - places))

/-- A number as text. -/
def render : Double → String
  | finite negative mantissa exponent =>
    let (digits, power) := shortest mantissa exponent
    (if negative then "-" else "") ++ positional digits power
  | infinite negative => if negative then "-inf" else "inf"
  | nan => "NaN"

end Descent.Double
