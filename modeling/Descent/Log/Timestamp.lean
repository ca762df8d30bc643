/-
  Points in time and their text.

  A `Timestamp` counts seconds and nanoseconds from the start of 1970 in universal time.  Its text is
  `YYYY-MM-DDThh:mm:ss+00:00` with as many decimals as it needs: none, three, six or nine.
-/

namespace Descent

/-- Seconds since the start of 1970, and nanoseconds into the last one. -/
structure Timestamp where
  seconds : Int
  nanos : Nat
deriving DecidableEq, Repr

namespace Timestamp

/-- Write a number with at least `width` digits. -/
def padded (width n : Nat) : String :=
  let digits := toString n
  "".pushn '0' (width - digits.length) ++ digits

/-- Year, month and day of the day with a number; day 0 is the first of 1970.  Years are taken to begin
in March, so that the leap day is their last. -/
def civil (day : Int) : Int × Nat × Nat :=
  let z := day + 719468
  let era := z.fdiv 146097
  let doe := (z - era * 146097).toNat
  let yoe := (doe - doe / 1460 + doe / 36524 - doe / 146096) / 365
  let doy := doe - (365 * yoe + yoe / 4 - yoe / 100)
  let mp := (5 * doy + 2) / 153
  let month := if mp < 10 then mp + 3 else mp - 9
  let year := (yoe : Int) + era * 400 + (if month ≤ 2 then 1 else 0)
  (year, month, doy - (153 * mp + 2) / 5 + 1)

/-- Years before 0 and after 9999 carry a sign. -/
def yearText (year : Int) : String :=
  if 0 ≤ year ∧ year ≤ 9999 then padded 4 year.toNat
  else (if year < 0 then "-" else "+") ++ padded 4 year.natAbs

/-- The fewest of three, six or nine decimals that are exact; none for a whole second. -/
def fraction (nanos : Nat) : String :=
  if nanos = 0 then ""
  else if nanos % 1000000 = 0 then "." ++ padded 3 (nanos / 1000000)
  else if nanos % 1000 = 0 then "." ++ padded 6 (nanos / 1000)
  else "." ++ padded 9 nanos

/-- Date, time of day and offset; a leap second counts as second 60. -/
def render (t : Timestamp) : String :=
  let day := t.seconds.fdiv 86400
  let rest := (t.seconds - day * 86400).toNat
  let (year, month, dayOfMonth) := civil day
  let leap := t.nanos / 1000000000
  yearText year ++ "-" ++ padded 2 month ++ "-" ++ padded 2 dayOfMonth ++ "T" ++ padded 2 (rest / 3600) ++
    ":" ++ padded 2 (rest / 60 % 60) ++ ":" ++ padded 2 (rest % 60 + leap) ++
    fraction (t.nanos % 1000000000) ++ "+00:00"

end Timestamp

end Descent
