/-
  Numbers of double precision, as exact quantities.

  A finite number is a mantissa below 2^53 times a power of two that is not below 2^-1074.  Decimals are
  rounded to the nearest of them, and ties go to the even mantissa.

  * `roundDiv` rounds a quotient, and `Double.ofDecimal` a decimal.
-/

namespace Descent

/-- A number of double precision. -/
inductive Double where
  | finite (negative : Bool) (mantissa : Nat) (exponent : Int)
  | infinite (negative : Bool)
  | nan
deriving DecidableEq, Repr

/-- A quotient rounded to the nearest whole number; ties go to the even one. -/
def roundDiv (num den : Nat) : Nat :=
  let q := num / den
  let r := num % den
  if den < 2 * r ∨ (2 * r = den ∧ q % 2 = 1) then q + 1 else q

namespace Double

/-- The bits of a mantissa. -/
def precision : Nat := 53

/-- The least and the greatest exponent. -/
def leastExponent : Int := -1074
def greatestExponent : Int := 971

/-- Multiply a fraction by a power of two. -/
def scale (num den : Nat) (power : Int) : Nat × Nat :=
  if 0 ≤ power then (num <<< power.toNat, den) else (num, den <<< (-power).toNat)

/-- The exponent with which a fraction has a mantissa of full precision, or the least one. -/
def exponentOf (num den : Nat) : Int :=
  let guess := (num.log2 : Int) - den.log2 - (precision - 1)
  let (n, d) := scale num den (-guess)
  max leastExponent (if n < d <<< (precision - 1) then guess - 1 else guess)

/-- The number nearest to a fraction. -/
def ofFraction (negative : Bool) (num den : Nat) : Double :=
  if num = 0 then finite negative 0 0
  else
    let exponent := exponentOf num den
    let (n, d) := scale num den (-exponent)
    let mantissa := roundDiv n d
    let (mantissa, exponent) :=
      if mantissa = 1 <<< precision then (1 <<< (precision - 1), exponent + 1) else (mantissa, exponent)
    if greatestExponent < exponent then infinite negative else finite negative mantissa exponent

/-- The number nearest to `digits` times a power of ten.  What is far out of range is not multiplied out. -/
def ofDecimal (negative : Bool) (digits : Nat) (power : Int) : Double :=
  let magnitude := ((toString digits).length : Int) + power
  if digits = 0 ∨ magnitude < -400 then finite negative 0 0
  else if 400 < magnitude then infinite negative
  else if 0 ≤ power then ofFraction negative (digits * Nat.pow 10 power.toNat) 1
  else ofFraction negative digits (Nat.pow 10 (-power).toNat)

end Double

end Descent
