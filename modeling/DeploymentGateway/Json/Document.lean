import DeploymentGateway.Json.Basic
import DeploymentGateway.Text.Letters
/-!
JSON text as it is written. A document keeps the fields of an object in the order of the text, also
repeated ones, and stays readable up to the first place where the text stops being JSON. So a
reader that goes through a document in order meets the faults of a text in the order they stand in.
-/

set_option autoImplicit false

namespace DeploymentGateway.Json

/-- A number as written. A point, an exponent or a size beyond 64 bits makes a floating point
number, which is out of range where it is none of the finite ones. -/
inductive WrittenNumber where
  | integer (value : Int)
  | float (value : Option Number.Binary64)

/-- A value as written. A string is absent where an escape in it is half of a surrogate pair.
Arrays and objects tell whether the text reached their closing bracket in good order. -/
inductive Document where
  | null
  | bool (value : Bool)
  | number (value : WrittenNumber)
  | string (value : Option String)
  | array (items : List Document) (closed : Bool)
  | object (fields : List (Option String × Document)) (closed : Bool)
  | broken

namespace Document

mutual

/-- A value as a document. -/
def ofJson : Json → Document
  | .null => .null
  | .bool b => .bool b
  | .number (.integer n) => .number (.integer n)
  | .number (.float x) => .number (.float (some x))
  | .string s => .string (some s)
  | .array items => .array (ofItems items) true
  | .object fields => .object (ofFields fields) true

/-- Values as documents. -/
def ofItems : List Json → List Document
  | [] => []
  | item :: rest => ofJson item :: ofItems rest

/-- Fields with documents for values. -/
def ofFields : List (String × Json) → List (Option String × Document)
  | [] => []
  | (name, value) :: rest => (some name, ofJson value) :: ofFields rest

end

/-- The text of the document is JSON to its end. -/
def isWhole : Document → Bool
  | .broken => false
  | .array _ closed => closed
  | .object _ closed => closed
  | _ => true

end Document

/-- The blanks of JSON. -/
private def isSpace (c : Char) : Bool :=
  c == ' ' || c == '\n' || c == '\t' || c == '\r'

private def skipSpace (s : List Char) : List Char :=
  s.dropWhile isSpace

/-- One character of a string, or the code of an escape, which may be half of a pair. -/
private inductive StringUnit where
  | literal (c : Char)
  | code (value : Nat)

private def isHighSurrogate (code : Nat) : Bool := 0xD800 ≤ code && code < 0xDC00
private def isLowSurrogate (code : Nat) : Bool := 0xDC00 ≤ code && code < 0xE000

/-- The characters that string units stand for, with surrogates joined in pairs. -/
private def joinUnits : List StringUnit → Option (List Char)
  | [] => some []
  | .literal c :: rest => (joinUnits rest).map (c :: ·)
  | .code high :: .code low :: rest =>
    if isHighSurrogate high then
      if isLowSurrogate low then
        let code := 0x10000 + (high - 0xD800) * 0x400 + (low - 0xDC00)
        (joinUnits rest).map (Char.ofNat code :: ·)
      else none
    else if isLowSurrogate high then none
    else (joinUnits (.code low :: rest)).map (Char.ofNat high :: ·)
  | .code code :: rest =>
    if isHighSurrogate code || isLowSurrogate code then none
    else (joinUnits rest).map (Char.ofNat code :: ·)

/-- The value of four hexadecimal digits. -/
private def hexQuad? (a b c d : Char) : Option Nat := do
  return (← Text.hexValue? a) * 4096 + (← Text.hexValue? b) * 256 + (← Text.hexValue? c) * 16 +
    (← Text.hexValue? d)

private def simpleEscape? (c : Char) : Option Char :=
  if c = '"' ∨ c = '\\' ∨ c = '/' then some c
  else if c = 'b' then some '\x08'
  else if c = 'f' then some '\x0c'
  else if c = 'n' then some '\n'
  else if c = 'r' then some '\r'
  else if c = 't' then some '\t'
  else none

/-- The units of a string up to its closing quote, and the text after it. -/
private def scanString : List Char → Option (List StringUnit × List Char)
  | [] => none
  | '"' :: rest => some ([], rest)
  | '\\' :: 'u' :: a :: b :: c :: d :: rest => do
    let code ← hexQuad? a b c d
    let (units, rest) ← scanString rest
    return (.code code :: units, rest)
  | '\\' :: c :: rest => do
    let escaped ← simpleEscape? c
    let (units, rest) ← scanString rest
    return (.literal escaped :: units, rest)
  | c :: rest =>
    if c = '\\' ∨ c.toNat < 0x20 then none
    else do
      let (units, rest) ← scanString rest
      return (.literal c :: units, rest)

/-- A string after its opening quote. -/
private def readString (s : List Char) : Option (Option String × List Char) :=
  (scanString s).map fun (units, rest) => ((joinUnits units).map String.ofList, rest)

/-- Take further digits into a significand while it fits 64 bits; what is left is not taken. -/
private def absorbDigits (significand : Nat) : List Char → Nat × List Char
  | [] => (significand, [])
  | c :: rest =>
    let next := significand * 10 + (Text.digitValue? c).getD 0
    if next < 18446744073709551616 then absorbDigits next rest else (significand, c :: rest)

/-- The fraction after a point: its digits, at least one. -/
private def readFraction : List Char → Option (List Char × List Char)
  | '.' :: rest =>
    let digits := rest.takeWhile Char.isDigit
    if digits.isEmpty then none else some (digits, rest.dropWhile Char.isDigit)
  | s => some ([], s)

/-- The exponent after its mark, absent where there is no mark. -/
private def readExponent (s : List Char) : Option (Option Int × List Char) :=
  match s with
  | mark :: rest =>
    if mark = 'e' ∨ mark = 'E' then
      let (negative, rest) := match rest with
        | '+' :: rest => (false, rest)
        | '-' :: rest => (true, rest)
        | rest => (false, rest)
      let digits := rest.takeWhile Char.isDigit
      if digits.isEmpty then none
      else
        let value : Int := Text.decimalValue digits
        some (some (if negative then -value else value), rest.dropWhile Char.isDigit)
    else some (none, s)
  | [] => some (none, s)

/-- A number after its sign. The digits of the integer part are taken while they fit, and each one
left out counts as a zero; the digits of the fraction likewise, and those left out do not count. -/
private def readNumber (negative : Bool) (s : List Char) : Option (WrittenNumber × List Char) := do
  let digits := s.takeWhile Char.isDigit
  if digits.isEmpty || (digits.length > 1 && digits.head? == some '0') then none
  let rest := s.dropWhile Char.isDigit
  let (significand, dropped) := absorbDigits 0 digits
  let (fraction, rest) ← readFraction rest
  let (exponent, rest) ← readExponent rest
  if fraction.isEmpty && exponent.isNone && dropped.isEmpty then
    let isInteger := if negative then 0 < significand && significand ≤ 9223372036854775808 else true
    if isInteger then
      some (.integer (if negative then -(significand : Int) else significand), rest)
    else some (.float (Number.Binary64.ofDecimal? negative significand 0), rest)
  else
    let (significand, ignored) := absorbDigits significand fraction
    let places : Int := (fraction.length : Int) - ignored.length
    let power := (dropped.length : Int) - places + exponent.getD 0
    some (.float (Number.Binary64.ofDecimal? negative significand power), rest)

/-- The rest of the text after a given word. -/
private def readWord (word : String) (s : List Char) : Option (List Char) :=
  let expected := word.toList
  if expected.isPrefixOf s then some (s.drop expected.length) else none

mutual

/-- A value at the start of a text, and the text after it unless the value breaks off. The fuel
bounds the number of values and brackets, which the length of the text does too. -/
private def readValue : Nat → List Char → Document × Option (List Char)
  | 0, _ => (.broken, none)
  | fuel + 1, s =>
    let word (name : String) (value : Document) : Document × Option (List Char) :=
      match readWord name s with
      | some rest => (value, some rest)
      | none => (.broken, none)
    let number (negative : Bool) (rest : List Char) : Document × Option (List Char) :=
      match readNumber negative rest with
      | some (value, rest) => (.number value, some rest)
      | none => (.broken, none)
    match s with
    | 'n' :: _ => word "null" .null
    | 't' :: _ => word "true" (.bool true)
    | 'f' :: _ => word "false" (.bool false)
    | '"' :: rest =>
      match readString rest with
      | some (value, rest) => (.string value, some rest)
      | none => (.broken, none)
    | '[' :: rest =>
      match skipSpace rest with
      | ']' :: rest => (.array [] true, some rest)
      | rest =>
        let (items, after) := readItems fuel rest
        (.array items after.isSome, after)
    | '\x7b' :: rest =>
      match skipSpace rest with
      | '\x7d' :: rest => (.object [] true, some rest)
      | rest =>
        let (fields, after) := readFields fuel rest
        (.object fields after.isSome, after)
    | '-' :: rest => number true rest
    | c :: _ => if c.isDigit then number false s else (.broken, none)
    | [] => (.broken, none)

/-- The items of an array up to its closing bracket. -/
private def readItems : Nat → List Char → List Document × Option (List Char)
  | 0, _ => ([], none)
  | fuel + 1, s =>
    match readValue fuel s with
    | (item, none) => ([item], none)
    | (item, some rest) =>
      match skipSpace rest with
      | ']' :: rest => ([item], some rest)
      | ',' :: rest =>
        match skipSpace rest with
        | ']' :: _ => ([item], none)
        | rest =>
          let (items, after) := readItems fuel rest
          (item :: items, after)
      | _ => ([item], none)

/-- The fields of an object up to its closing bracket. -/
private def readFields : Nat → List Char → List (Option String × Document) × Option (List Char)
  | 0, _ => ([], none)
  | fuel + 1, s =>
    match s with
    | '"' :: rest =>
      match readString rest with
      | none => ([], none)
      | some (name, rest) =>
        match skipSpace rest with
        | ':' :: rest =>
          match readValue fuel (skipSpace rest) with
          | (value, none) => ([(name, value)], none)
          | (value, some rest) =>
            match skipSpace rest with
            | '\x7d' :: rest => ([(name, value)], some rest)
            | ',' :: rest =>
              match skipSpace rest with
              | '\x7d' :: _ => ([(name, value)], none)
              | rest =>
                let (fields, after) := readFields fuel rest
                ((name, value) :: fields, after)
            | _ => ([(name, value)], none)
        | _ => ([(name, .broken)], none)
    | _ => ([], none)

end

/-- The value at the start of a text, and whether only blanks follow it. -/
def Document.read (text : String) : Document × Bool :=
  let s := text.toList
  match readValue (2 * s.length + 2) (skipSpace s) with
  | (document, some rest) => (document, (skipSpace rest).isEmpty)
  | (document, none) => (document, false)

end DeploymentGateway.Json
