import DeploymentGateway.Text.Letters
import DeploymentGateway.Text.Property
/-!
The quoted form of a text inside a message: double quotes around it, and every character that
would not be seen as itself replaced by an escape.
-/

set_option autoImplicit false

namespace DeploymentGateway.Text

/-- The escape of one character of a quoted text. -/
def quotedCharacter (c : Char) : List Char :=
  if c = '"' then ['\\', '"']
  else if c = '\\' then ['\\', '\\']
  else if c = '\n' then ['\\', 'n']
  else if c = '\r' then ['\\', 'r']
  else if c = '\t' then ['\\', 't']
  else if c = '\x00' then ['\\', '0']
  else if Property.isGraphemeExtending c || !Property.isPrintable c then
    ['\\', 'u', '\x7b'] ++ Nat.toDigits 16 c.toNat ++ ['\x7d']
  else [c]

/-- A text in double quotes, with escapes. -/
def quoted (s : String) : String :=
  String.ofList ('"' :: (s.toList.flatMap quotedCharacter ++ ['"']))

end DeploymentGateway.Text
