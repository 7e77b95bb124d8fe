import DeploymentGateway.Number.Binary64
import DeploymentGateway.Text.Letters
import DeploymentGateway.Time.Instant
import DeploymentGateway.Toml.Table
/-!
The smallest parts of TOML text: blanks and comments, strings, keys, numbers, dates and times. Each
reader takes its part from the start of a text and returns what follows it.
-/

set_option autoImplicit false

namespace DeploymentGateway.Toml

/-- A blank inside a line. -/
def isSpace (c : Char) : Bool :=
  c == ' ' || c == '\t'

/-- A character that may stand in comments and strings. -/
def isPlain (c : Char) : Bool :=
  c == '\t' || (0x20 ≤ c.toNat && c.toNat != 0x7F)

/-- The text after blanks. -/
def skipSpace (s : List Char) : List Char :=
  s.dropWhile isSpace

/-- The text after the end of a line. -/
def skipNewline? : List Char → Option (List Char)
  | '\n' :: rest => some rest
  | '\r' :: '\n' :: rest => some rest
  | _ => none

/-- The text after a comment, if one stands here. -/
def skipComment : List Char → List Char
  | '#' :: rest => rest.dropWhile isPlain
  | s => s

/-- The text after the rest of a line, in which only a comment may stand. -/
def skipLineEnd? (s : List Char) : Option (List Char) :=
  match skipComment (skipSpace s) with
  | [] => some []
  | s => skipNewline? s

/-- The text after blanks, comments and ends of lines. -/
def skipLayout (s : List Char) : List Char :=
  match s with
  | [] => []
  | '\r' :: '\n' :: rest => skipLayout rest
  | '#' :: rest => skipLayout (rest.dropWhile isPlain)
  | c :: rest => if isSpace c || c == '\n' then skipLayout rest else c :: rest
termination_by s.length
decreasing_by
  · simp +arith
  · have : (rest.dropWhile isPlain).length ≤ rest.length := (List.dropWhile_sublist _).length_le
    simp only [List.length_cons]
    omega
  · simp

/-! ## Strings -/

/-- The character that a letter after a backslash stands for. -/
private def simpleEscape? (c : Char) : Option Char :=
  if c = 'b' then some '\x08'
  else if c = 't' then some '\t'
  else if c = 'n' then some '\n'
  else if c = 'f' then some '\x0c'
  else if c = 'r' then some '\r'
  else if c = '"' ∨ c = '\\' then some c
  else none

/-- The character whose code some hexadecimal digits denote. -/
private def characterOfHex? (digits : List Char) : Option Char := do
  let values ← digits.mapM Text.hexValue?
  let code := values.foldl (fun code value => code * 16 + value) 0
  if code.isValidChar then some (Char.ofNat code)
  else none

/-- A string on one line, after its opening quote. -/
def readBasic : List Char → Option (List Char × List Char)
  | [] => none
  | '"' :: rest => some ([], rest)
  | '\\' :: 'u' :: a :: b :: c :: d :: rest => do
    let escaped ← characterOfHex? [a, b, c, d]
    let (value, rest) ← readBasic rest
    return (escaped :: value, rest)
  | '\\' :: 'U' :: a :: b :: c :: d :: e :: f :: g :: h :: rest => do
    let escaped ← characterOfHex? [a, b, c, d, e, f, g, h]
    let (value, rest) ← readBasic rest
    return (escaped :: value, rest)
  | '\\' :: c :: rest => do
    let escaped ← simpleEscape? c
    let (value, rest) ← readBasic rest
    return (escaped :: value, rest)
  | c :: rest =>
    if isPlain c && c != '\\' then do
      let (value, rest) ← readBasic rest
      return (c :: value, rest)
    else none

/-- The quotes that belong to a string on several lines although they touch its closing ones: at
most two. -/
private def closingQuotes (quote : Char) (rest : List Char) : List Char × List Char :=
  match rest with
  | a :: b :: more =>
    if a = quote then (if b = quote then ([a, b], more) else ([a], b :: more)) else ([], rest)
  | [a] => if a = quote then ([a], []) else ([], rest)
  | [] => ([], [])

/-- A string on several lines, after its opening quotes. While skipping, all blanks and ends of lines
are left out; a backslash at the end of a line begins that. -/
def readLines (skipping : Bool) : List Char → Option (List Char × List Char)
  | [] => none
  | '"' :: '"' :: '"' :: rest => some (closingQuotes '"' rest)
  | '\r' :: '\n' :: rest =>
    if skipping then readLines true rest
    else do
      let (value, rest) ← readLines false rest
      return ('\n' :: value, rest)
  | '\\' :: 'u' :: a :: b :: c :: d :: rest => do
    let escaped ← characterOfHex? [a, b, c, d]
    let (value, rest) ← readLines false rest
    return (escaped :: value, rest)
  | '\\' :: 'U' :: a :: b :: c :: d :: e :: f :: g :: h :: rest => do
    let escaped ← characterOfHex? [a, b, c, d, e, f, g, h]
    let (value, rest) ← readLines false rest
    return (escaped :: value, rest)
  | '\\' :: c :: rest =>
    if (skipNewline? (skipSpace (c :: rest))).isSome then readLines true (c :: rest)
    else do
      let escaped ← simpleEscape? c
      let (value, rest) ← readLines false rest
      return (escaped :: value, rest)
  | c :: rest =>
    if skipping && (isSpace c || c == '\n') then readLines true rest
    else if c == '\n' || (isPlain c && c != '\\') then do
      let (value, rest) ← readLines false rest
      return (c :: value, rest)
    else none

/-- A string on one line without escapes, after its opening quote. -/
def readLiteral (s : List Char) : Option (List Char × List Char) :=
  let isInside (c : Char) : Bool := isPlain c && c != '\''
  match s.dropWhile isInside with
  | '\'' :: rest => some (s.takeWhile isInside, rest)
  | _ => none

/-- A string on several lines without escapes, after its opening quotes. -/
def readLiteralLines : List Char → Option (List Char × List Char)
  | [] => none
  | '\'' :: '\'' :: '\'' :: rest => some (closingQuotes '\'' rest)
  | '\r' :: '\n' :: rest => do
    let (value, rest) ← readLiteralLines rest
    return ('\n' :: value, rest)
  | c :: rest =>
    if c == '\n' || isPlain c then do
      let (value, rest) ← readLiteralLines rest
      return (c :: value, rest)
    else none

/-- A text without the end of a line at its start. -/
private def afterNewline (s : List Char) : List Char :=
  (skipNewline? s).getD s

/-- A string of any form. -/
def readString (s : List Char) : Option (String × List Char) :=
  let found := match s with
    | '"' :: '"' :: '"' :: rest => readLines false (afterNewline rest)
    | '"' :: rest => readBasic rest
    | '\'' :: '\'' :: '\'' :: rest => readLiteralLines (afterNewline rest)
    | '\'' :: rest => readLiteral rest
    | _ => none
  found.map fun (value, rest) => (String.ofList value, rest)

/-! ## Keys -/

/-- The characters of names without quotes. -/
def isBare (c : Char) : Bool :=
  c.isAlphanum || c == '-' || c == '_'

/-- One name of a key. -/
def readName (s : List Char) : Option (String × List Char) :=
  let found := match s with
    | '"' :: rest => readBasic rest
    | '\'' :: rest => readLiteral rest
    | s => if s.head?.any isBare then some (s.takeWhile isBare, s.dropWhile isBare) else none
  found.map fun (value, rest) => (String.ofList value, rest)

/-- A key: names with points between them, and blanks around each. The fuel bounds the number of
names. -/
def readNames : Nat → List Char → Option (List String × List Char)
  | 0, _ => none
  | fuel + 1, s => do
    let (name, rest) ← readName (skipSpace s)
    match skipSpace rest with
    | '.' :: rest => do
      let (names, rest) ← readNames fuel rest
      return (name :: names, rest)
    | rest => return ([name], rest)

/-- Fewer names than this make a key, and fewer brackets nest. -/
def nestingLimit : Nat := 80

/-- A key of fewer names than the limit. -/
def readKey (s : List Char) : Option (List String × List Char) :=
  readNames (nestingLimit - 1) s

/-! ## Numbers -/

/-- Digits with single underscores between them, which are left out. -/
def readDigits (isDigit : Char → Bool) : List Char → Option (List Char × List Char)
  | [] => none
  | c :: '_' :: rest =>
    if isDigit c then (readDigits isDigit rest).map fun (digits, rest) => (c :: digits, rest)
    else none
  | c :: rest =>
    if !isDigit c then none
    else if rest.head?.any isDigit then
      (readDigits isDigit rest).map fun (digits, rest) => (c :: digits, rest)
    else some ([c], rest)

/-- A sign. -/
def readSign : List Char → Bool × List Char
  | '+' :: rest => (false, rest)
  | '-' :: rest => (true, rest)
  | s => (false, s)

/-- An integer of 64 bits with sign. -/
def integer? (n : Int) : Option Value :=
  if Json.fitsInt64 n then some (.integer n) else none

/-- An integer in base two, eight or sixteen, after the mark of its base. -/
def readRadix (base : Nat) (s : List Char) : Option (Value × List Char) := do
  let isDigit (c : Char) : Bool := (Text.hexValue? c).any fun value => value < base
  let (digits, rest) ← readDigits isDigit s
  let value := digits.foldl (fun n c => n * base + (Text.hexValue? c).getD 0) 0
  return (← integer? value, rest)

/-- A positive decimal is beyond all finite numbers: `digits` with the point moved by `power` places.
Its order of magnitude decides, except near the limit. -/
def isTooLarge (digits : List Char) (power : Int) : Bool :=
  let significant := digits.dropWhile (· == '0')
  let order : Int := significant.length + power
  if significant.isEmpty || order < 300 then false
  else if 310 < order then true
  else
    let (numerator, denominator) := match power with
      | .ofNat n => (Text.decimalValue significant * Nat.pow 10 n, 1)
      | .negSucc n => (Text.decimalValue significant, Nat.pow 10 (n + 1))
    (Number.Binary64.ofRatio? false numerator denominator).isNone

/-- The fraction after a point, and whether there is a point. -/
private def readFractionPart (s : List Char) : Option (Bool × List Char × List Char) :=
  match s with
  | '.' :: rest => (readDigits Char.isDigit rest).map fun (digits, rest) => (true, digits, rest)
  | s => some (false, [], s)

/-- The exponent after its mark, and whether there is a mark. -/
private def readExponentPart (s : List Char) : Option (Bool × Int × List Char) :=
  match s with
  | mark :: rest =>
    if mark = 'e' ∨ mark = 'E' then
      let (negative, rest) := readSign rest
      (readDigits Char.isDigit rest).map fun (digits, rest) =>
        let value : Int := Text.decimalValue digits
        (true, if negative then -value else value, rest)
    else some (false, 0, s)
  | [] => some (false, 0, s)

/-- A decimal number after its sign: an integer, or a floating point number where there is a point or
an exponent. Only zero itself begins with a zero. -/
def readDecimal (negative : Bool) (s : List Char) : Option (Value × List Char) := do
  let (digits, rest) ← readDigits Char.isDigit s
  if digits.length > 1 && digits.head? == some '0' then none
  let (hasPoint, fraction, rest) ← readFractionPart rest
  let (hasExponent, exponent, rest) ← readExponentPart rest
  if hasPoint || hasExponent then
    if !negative && isTooLarge (digits ++ fraction) (exponent - fraction.length) then none
    return (.float, rest)
  else
    let value : Int := Text.decimalValue digits
    return (← integer? (if negative then -value else value), rest)

/-- A number of any form. -/
def readNumber (s : List Char) : Option (Value × List Char) :=
  match s with
  | '0' :: 'x' :: rest => readRadix 16 rest
  | '0' :: 'o' :: rest => readRadix 8 rest
  | '0' :: 'b' :: rest => readRadix 2 rest
  | s =>
    let (negative, rest) := readSign s
    match rest with
    | 'i' :: 'n' :: 'f' :: rest => some (.float, rest)
    | 'n' :: 'a' :: 'n' :: rest => some (.float, rest)
    | rest => readDecimal negative rest

/-! ## Dates and times -/

/-- So many digits. -/
private def takeDigits (width : Nat) (s : List Char) : Option (Nat × List Char) :=
  let digits := s.take width
  if digits.length = width && digits.all Char.isDigit then
    some (Text.decimalValue digits, s.drop width)
  else none

/-- The text after a given character. -/
private def skipMark (mark : Char) : List Char → Option (List Char)
  | c :: rest => if c = mark then some rest else none
  | [] => none

/-- The text after a date of the calendar. -/
def skipDate? (s : List Char) : Option (List Char) := do
  let (year, s) ← takeDigits 4 s
  let (month, s) ← takeDigits 2 (← skipMark '-' s)
  let (day, s) ← takeDigits 2 (← skipMark '-' s)
  if (Time.Date.mk year month day).isValid then some s else none

/-- The text after a fraction of a second, if one stands here. -/
private def skipFraction : List Char → List Char
  | '.' :: rest => if rest.head?.any Char.isDigit then rest.dropWhile Char.isDigit else '.' :: rest
  | s => s

/-- The text after hours and minutes. -/
private def skipHoursAndMinutes? (s : List Char) : Option (List Char) := do
  let (hour, s) ← takeDigits 2 s
  let (minute, s) ← takeDigits 2 (← skipMark ':' s)
  if hour < 24 && minute < 60 then some s else none

/-- The text after a time of the day. -/
def skipTime? (s : List Char) : Option (List Char) := do
  let s ← skipHoursAndMinutes? s
  let (second, s) ← takeDigits 2 (← skipMark ':' s)
  if second ≤ 60 then some (skipFraction s) else none

/-- The text after a zone, if one stands here; a sign has to begin one. -/
def skipZone? : List Char → Option (List Char)
  | 'Z' :: rest => some rest
  | 'z' :: rest => some rest
  | '+' :: rest => skipHoursAndMinutes? rest
  | '-' :: rest => skipHoursAndMinutes? rest
  | s => some s

/-- The text after the time of the day and the zone behind a date, if they stand here. -/
def skipTimeOfDate? (s : List Char) : Option (List Char) :=
  match s with
  | mark :: rest =>
    if mark = 'T' ∨ mark = 't' ∨ mark = ' ' then
      match skipTime? rest with
      | some rest => skipZone? rest
      | none => some s
    else some s
  | [] => some []

/-- A date with or without a time, or a time alone. -/
def readMoment (s : List Char) : Option (Value × List Char) := do
  let rest ← match skipDate? s with
    | some rest => skipTimeOfDate? rest
    | none => skipTime? s
  return (.moment, rest)

end DeploymentGateway.Toml
