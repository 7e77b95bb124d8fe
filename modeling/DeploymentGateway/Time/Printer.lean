import DeploymentGateway.Text.Letters
import DeploymentGateway.Time.Instant
/-!
The written form of an instant in universal time: date, a capital T, time of day, and a zone. The
fraction has as few of zero, three, six or nine digits as show it, years beyond four digits carry a
sign, and a leap second is the second 60.
-/

set_option autoImplicit false

namespace DeploymentGateway.Time

open Text

/-- A year: four digits up to 9999, and otherwise a sign and at least four digits. -/
def yearText (year : Int) : String :=
  if 0 ≤ year ∧ year ≤ 9999 then paddedDecimal 4 year.toNat
  else (if year < 0 then "-" else "+") ++ paddedDecimal 4 year.natAbs

/-- The fraction of a second with its point, empty where it is zero. -/
def fractionText (nanoseconds : Nat) : String :=
  if nanoseconds = 0 then ""
  else if nanoseconds % 1000000 = 0 then "." ++ paddedDecimal 3 (nanoseconds / 1000000)
  else if nanoseconds % 1000 = 0 then "." ++ paddedDecimal 6 (nanoseconds / 1000)
  else "." ++ paddedDecimal 9 nanoseconds

/-- Date and time of day in universal time, without a zone. -/
def Instant.stamp (t : Instant) : String :=
  let date := t.date
  let clock := t.clock
  yearText date.year ++ "-" ++ paddedDecimal 2 date.month ++ "-" ++ paddedDecimal 2 date.day ++
    "T" ++ paddedDecimal 2 clock.hour ++ ":" ++ paddedDecimal 2 clock.minute ++ ":" ++
    paddedDecimal 2 clock.second ++ fractionText clock.nanosecond

/-- An instant in the form of data, with the zone Z. -/
def Instant.text (t : Instant) : String :=
  t.stamp ++ "Z"

/-- An instant with a numeric zone, as annotations have it. -/
def Instant.textWithOffset (t : Instant) : String :=
  t.stamp ++ "+00:00"

end DeploymentGateway.Time
