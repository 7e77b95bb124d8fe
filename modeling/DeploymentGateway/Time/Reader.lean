import DeploymentGateway.Text.Blank
import DeploymentGateway.Text.Letters
import DeploymentGateway.Text.Split
import DeploymentGateway.Time.Instant
/-!
Reading instants from text, in three forms. The strict form is that of RFC 3339. The lenient form,
for fields of records, allows blanks between the parts, one-digit fields and signed years. The form
of the release manager's listings has date, time of day and zone as three words.
-/

set_option autoImplicit false

namespace DeploymentGateway.Time

open Text

/-- A number of at least one and at most `width` digits; no width means no upper limit. -/
def readDigits (least : Nat) (width : Option Nat) (s : List Char) : Option (Nat × List Char) :=
  let digits := s.takeWhile Char.isDigit
  let taken := match width with
    | some width => digits.take width
    | none => digits
  if taken.length < least then none else some (decimalValue taken, s.drop taken.length)

/-- The rest of a text after a given character. -/
def skipChar (c : Char) : List Char → Option (List Char)
  | d :: rest => if d = c then some rest else none
  | [] => none

/-- A fraction of a second after its point, in nanoseconds. Digits beyond the ninth are dropped. -/
def readFraction : List Char → Option (Nat × List Char)
  | '.' :: rest =>
    let digits := rest.takeWhile Char.isDigit
    let taken := digits.take 9
    if taken.isEmpty then none
    else some (decimalValue taken * Nat.pow 10 (9 - taken.length), rest.dropWhile Char.isDigit)
  | s => some (0, s)

/-- The sign of a zone: a plus, a hyphen or the minus of mathematics. -/
def readZoneSign : List Char → Option (Bool × List Char)
  | c :: rest =>
    if c = '+' then some (false, rest)
    else if c = '-' ∨ c = '\u2212' then some (true, rest)
    else none
  | [] => none

/-- A numeric zone in seconds ahead of universal time: sign, two digits of hours, what separates them
from the minutes, and two digits of minutes below sixty. -/
def readOffset (skipSeparator : List Char → Option (List Char)) (s : List Char) :
    Option (Int × List Char) := do
  let (negative, rest) ← readZoneSign s
  let (hours, rest) ← readDigits 2 (some 2) rest
  let rest ← skipSeparator rest
  let (minutes, rest) ← readDigits 2 (some 2) rest
  if 60 ≤ minutes then none
  let seconds : Int := hours * 3600 + minutes * 60
  return (if negative then -seconds else seconds, rest)

/-- A zone that is a numeric one or the letter Z. -/
def readZone (skipSeparator : List Char → Option (List Char)) (s : List Char) :
    Option (Int × List Char) :=
  match s with
  | 'Z' :: rest => some (0, rest)
  | 'z' :: rest => some (0, rest)
  | s => readOffset skipSeparator s

/-- Any number of colons and blanks. -/
def skipColonsAndBlanks (s : List Char) : Option (List Char) :=
  some (s.dropWhile fun c => c == ':' || isBlank c)

/-- The first and last years that dates may have. -/
def yearIsInRange (year : Int) : Bool :=
  -262143 ≤ year && year ≤ 262142

/-- The instant of parts read from a text, if there is such a date, time of day and zone. -/
def assemble? (date : Date) (clock : Clock) (offset : Int) : Option Instant :=
  if date.isValid && yearIsInRange date.year && clock.hour < 24 && clock.minute < 60 &&
      clock.second ≤ 60 && offset.natAbs < secondsPerDay then
    let t := Instant.ofLocal date clock offset
    if yearIsInRange t.date.year then some t else none
  else none

/-- The separator of date and time of day. -/
def skipDateMark : List Char → Option (List Char)
  | c :: rest => if c = 'T' ∨ c = 't' ∨ c = ' ' then some rest else none
  | [] => none

/-- An instant in the strict form. -/
def readStrict? (text : String) : Option Instant := do
  let (year, s) ← readDigits 4 (some 4) text.toList
  let (month, s) ← readDigits 2 (some 2) (← skipChar '-' s)
  let (day, s) ← readDigits 2 (some 2) (← skipChar '-' s)
  let (hour, s) ← readDigits 2 (some 2) (← skipDateMark s)
  let (minute, s) ← readDigits 2 (some 2) (← skipChar ':' s)
  let (second, s) ← readDigits 2 (some 2) (← skipChar ':' s)
  let (fraction, s) ← readFraction s
  let (offset, s) ← readZone (skipChar ':') s
  if !s.isEmpty then none
  assemble? ⟨year, month, day⟩ ⟨hour, minute, second, fraction⟩ offset

/-- A text without the blanks at its start. -/
def skipBlanks (s : List Char) : List Char :=
  s.dropWhile isBlank

/-- A year after blanks: up to four digits, or any number of them after a sign. -/
def readYear (s : List Char) : Option (Int × List Char) :=
  match skipBlanks s with
  | '-' :: rest => (readDigits 1 none rest).map fun (year, rest) => (-(year : Int), rest)
  | '+' :: rest => (readDigits 1 none rest).map fun (year, rest) => ((year : Int), rest)
  | rest => (readDigits 1 (some 4) rest).map fun (year, rest) => ((year : Int), rest)

/-- A field of one or two digits after blanks. -/
def readField (s : List Char) : Option (Nat × List Char) :=
  readDigits 1 (some 2) (skipBlanks s)

/-- A date with year, month and day. Blanks may stand before each number, and `space` skips what may
stand before each mark. -/
def readDate (space : List Char → List Char) (s : List Char) : Option (Date × List Char) := do
  let (year, s) ← readYear s
  let (month, s) ← readField (← skipChar '-' (space s))
  let (day, s) ← readField (← skipChar '-' (space s))
  return (⟨year, month, day⟩, s)

/-- A time of day with an optional fraction, with blanks as in a date. -/
def readClock (space : List Char → List Char) (s : List Char) : Option (Clock × List Char) := do
  let (hour, s) ← readField s
  let (minute, s) ← readField (← skipChar ':' (space s))
  let (second, s) ← readField (← skipChar ':' (space s))
  let (fraction, s) ← readFraction s
  return (⟨hour, minute, second, fraction⟩, s)

/-- A zone that may also be the word UTC in any case. -/
def readNamedZone (s : List Char) : Option (Int × List Char) :=
  if (s.take 3).map Char.toLower = ['u', 't', 'c'] then some (0, s.drop 3)
  else readZone skipColonsAndBlanks s

/-- An instant in the lenient form. -/
def readLenient? (text : String) : Option Instant := do
  let (date, s) ← readDate skipBlanks text.toList
  let (clock, s) ← readClock skipBlanks (← skipDateMark s)
  let (offset, s) ← readNamedZone (skipBlanks s)
  if !(skipBlanks s).isEmpty then none
  assemble? date clock offset

/-- A date and a time of day, with blanks between them, and what follows. -/
def readStamp (s : List Char) : Option (Date × Clock × List Char) := do
  let (date, s) ← readDate id s
  let (clock, s) ← readClock id s
  return (date, clock, s)

/-- The instant of a date word, a time word and a zone word. -/
def readZoned? (day time zone : List Char) : Option Instant := do
  let (date, clock, s) ← readStamp (day ++ ' ' :: time ++ ' ' :: zone)
  let (offset, s) ← readOffset skipColonsAndBlanks (skipBlanks s)
  if !s.isEmpty then none
  assemble? date clock offset

/-- The instant of a date word and a time word in universal time. -/
def readUniversal? (day time : List Char) : Option Instant := do
  let (date, clock, s) ← readStamp (day ++ ' ' :: time)
  if !s.isEmpty then none
  assemble? date clock 0

/-- An instant as the release manager writes it: in the strict form, or as a list of at least three
words of which the third is the zone. A zone that is no numeric one counts as universal time. -/
def readRelease? (text : String) : Option Instant :=
  match readStrict? text with
  | some t => some t
  | none =>
    match words text.toList with
    | day :: time :: zone :: _ => (readZoned? day time zone).orElse fun _ => readUniversal? day time
    | _ => none

end DeploymentGateway.Time
