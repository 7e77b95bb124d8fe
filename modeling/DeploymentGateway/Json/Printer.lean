import DeploymentGateway.Json.Basic
import DeploymentGateway.Number.Shortest
/-!
The compact text of JSON values: no blanks, characters escaped only where JSON demands it.
-/

set_option autoImplicit false

namespace DeploymentGateway.Json

/-- The form of one character inside a JSON string. -/
def escapedCharacter (c : Char) : List Char :=
  if c = '"' then ['\\', '"']
  else if c = '\\' then ['\\', '\\']
  else if c = '\n' then ['\\', 'n']
  else if c = '\r' then ['\\', 'r']
  else if c = '\t' then ['\\', 't']
  else if c.toNat = 0x08 then ['\\', 'b']
  else if c.toNat = 0x0C then ['\\', 'f']
  else if c.toNat < 0x20 then
    ['\\', 'u', '0', '0', Text.hexDigit false (c.toNat / 16), Text.hexDigit false (c.toNat % 16)]
  else [c]

/-- A text as a JSON string. -/
def renderString (s : String) : String :=
  String.ofList ('"' :: (s.toList.flatMap escapedCharacter ++ ['"']))

/-- A number in its shortest form. -/
def renderNumber : JsonNumber → String
  | .integer n => Text.signedDecimal n
  | .float x => x.text

mutual

/-- A value as compact JSON text. -/
def render : Json → String
  | .null => "null"
  | .bool true => "true"
  | .bool false => "false"
  | .number n => renderNumber n
  | .string s => renderString s
  | .array items => "[" ++ renderItems items ++ "]"
  | .object fields => "\x7b" ++ renderFields fields ++ "\x7d"

/-- Items with commas between them. -/
def renderItems : List Json → String
  | [] => ""
  | [item] => render item
  | item :: rest => render item ++ "," ++ renderItems rest

/-- Fields with commas between them. -/
def renderFields : List (String × Json) → String
  | [] => ""
  | [(name, value)] => renderString name ++ ":" ++ render value
  | (name, value) :: rest => renderString name ++ ":" ++ render value ++ "," ++ renderFields rest

end

end DeploymentGateway.Json
