/-!
Points in time on the proleptic Gregorian calendar, to the nanosecond, with leap seconds.
-/

set_option autoImplicit false

namespace DeploymentGateway.Time

/-- A day of the calendar. Year zero is the year before year one. -/
structure Date where
  year : Int
  month : Nat
  day : Nat
  deriving DecidableEq

/-- A time of the day. In a leap second `second` is 60. -/
structure Clock where
  hour : Nat
  minute : Nat
  second : Nat
  nanosecond : Nat
  deriving DecidableEq

/-- A point in time: seconds since the start of 1970, and nanoseconds. Within a leap second the
seconds are those of the second before it and the nanoseconds go on beyond a thousand million. -/
structure Instant where
  seconds : Int
  nanoseconds : Nat
  deriving DecidableEq, Inhabited

/-- The nanoseconds of a second. -/
def nanosecondsPerSecond : Nat := 1000000000

/-- The seconds of a day. -/
def secondsPerDay : Nat := 86400

/-- A year with a 29th of February. -/
def isLeapYear (year : Int) : Bool :=
  year % 4 == 0 && (year % 100 != 0 || year % 400 == 0)

/-- The number of days of a month. -/
def daysInMonth (year : Int) (month : Nat) : Nat :=
  if month = 2 then (if isLeapYear year then 29 else 28)
  else if month = 4 ∨ month = 6 ∨ month = 9 ∨ month = 11 then 30
  else 31

/-- A date that the calendar has. -/
def Date.isValid (date : Date) : Bool :=
  1 ≤ date.month && date.month ≤ 12 && 1 ≤ date.day && date.day ≤ daysInMonth date.year date.month

/-- The days from the start of 1970 to a date. Years are counted from March, so that the leap day is
the last of its year, in eras of 400 years. -/
def Date.dayNumber (date : Date) : Int :=
  let year : Int := if date.month ≤ 2 then date.year - 1 else date.year
  let era := year / 400
  let yearOfEra := year % 400
  let monthFromMarch : Int := (date.month + 9) % 12
  let dayOfYear := (153 * monthFromMarch + 2) / 5 + date.day - 1
  let dayOfEra := yearOfEra * 365 + yearOfEra / 4 - yearOfEra / 100 + dayOfYear
  era * 146097 + dayOfEra - 719468

/-- The date of a day number. -/
def Date.ofDayNumber (number : Int) : Date :=
  let shifted := number + 719468
  let era := shifted / 146097
  let dayOfEra := shifted % 146097
  let yearOfEra := (dayOfEra - dayOfEra / 1460 + dayOfEra / 36524 - dayOfEra / 146096) / 365
  let dayOfYear := dayOfEra - (365 * yearOfEra + yearOfEra / 4 - yearOfEra / 100)
  let monthFromMarch := (5 * dayOfYear + 2) / 153
  let day := dayOfYear - (153 * monthFromMarch + 2) / 5 + 1
  let month := if monthFromMarch < 10 then monthFromMarch + 3 else monthFromMarch - 9
  let year := yearOfEra + era * 400 + (if month ≤ 2 then 1 else 0)
  ⟨year, month.toNat, day.toNat⟩

/-- The instant of a date and a time of day that are `offset` seconds ahead of universal time. -/
def Instant.ofLocal (date : Date) (clock : Clock) (offset : Int) : Instant :=
  let second := if clock.second = 60 then 59 else clock.second
  let extra := if clock.second = 60 then nanosecondsPerSecond else 0
  let secondOfDay := clock.hour * 3600 + clock.minute * 60 + second
  ⟨date.dayNumber * secondsPerDay + secondOfDay - offset, clock.nanosecond + extra⟩

/-- The date of an instant in universal time. -/
def Instant.date (t : Instant) : Date :=
  Date.ofDayNumber (t.seconds / secondsPerDay)

/-- The time of day of an instant in universal time. -/
def Instant.clock (t : Instant) : Clock :=
  let secondOfDay := (t.seconds % secondsPerDay).toNat
  let leap := nanosecondsPerSecond ≤ t.nanoseconds
  ⟨secondOfDay / 3600, secondOfDay / 60 % 60, secondOfDay % 60 + (if leap then 1 else 0),
    if leap then t.nanoseconds - nanosecondsPerSecond else t.nanoseconds⟩

/-- The start of the second that an instant lies in. -/
def Instant.wholeSecond (t : Instant) : Instant :=
  { t with nanoseconds := t.nanoseconds / nanosecondsPerSecond * nanosecondsPerSecond }

/-- An instant is not after another one. -/
def Instant.notAfter (s t : Instant) : Bool :=
  s.seconds < t.seconds || (s.seconds == t.seconds && s.nanoseconds ≤ t.nanoseconds)

/-- The later of two instants. -/
def Instant.later (s t : Instant) : Instant :=
  if s.notAfter t then t else s

/-- The last of some instants. -/
def Instant.latest? (instants : List Instant) : Option Instant :=
  instants.foldl (fun last t => some (match last with | none => t | some s => s.later t)) none

end DeploymentGateway.Time
