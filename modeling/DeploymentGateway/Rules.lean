import DeploymentGateway.Failure
import DeploymentGateway.Json.Printer
import DeploymentGateway.Text.Quoted
import DeploymentGateway.Text.Split
/-!
The rules that the input of operations must keep, checked before a back end is touched.
-/

set_option autoImplicit false

namespace DeploymentGateway.Rules

/-- The greatest length of a name. -/
def maxNameLength : Nat := 63

/-- A small letter or a digit. -/
def isNameEnd (c : Char) : Bool :=
  ('a' ≤ c && c ≤ 'z') || c.isDigit

/-- A character that may stand inside a name. -/
def isNameCharacter (c : Char) : Bool :=
  isNameEnd c || c == '-'

/-- A DNS label: small letters, digits and hyphens, with no hyphen at either end. -/
def isLabel (s : List Char) : Bool :=
  s.all isNameCharacter && s.head?.any isNameEnd && s.getLast?.any isNameEnd

/-- A name is a DNS label of 1 to 63 octets. -/
def checkName (field value : String) : Outcome Unit :=
  if value.isEmpty then .error (.invalid field "must not be empty")
  else if maxNameLength < value.utf8ByteSize then
    .error (.invalid field
      (Text.quoted value ++ " is longer than " ++ Text.decimal maxNameLength ++ " characters"))
  else if !isLabel value.toList then
    .error (.invalid field (Text.quoted value ++
      " must consist of lowercase alphanumerics and '-', and start and end with an alphanumeric"))
  else .ok ()

/-- The mark between segments of a path, of either kind. -/
def isPathMark (c : Char) : Bool :=
  c == '/' || c == '\\'

/-- A path inside a repository is relative and never goes up. The empty path is its root. -/
def checkPath (field value : String) : Outcome Unit :=
  if value.toList.head?.any isPathMark then
    .error (.invalid field (Text.quoted value ++ " must be a relative path"))
  else if (Text.pieces isPathMark value.toList).any (· == ['.', '.']) then
    .error (.invalid field (Text.quoted value ++ " must not contain '..' segments"))
  else .ok ()

/-- A count of replicas is not negative. -/
def checkReplicas (replicas : Int32) : Outcome Unit :=
  if replicas < 0 then
    .error (.invalid "replicas" ("must be >= 0, got " ++ Text.signedDecimal replicas.toInt))
  else .ok ()

/-- A position in a history is not negative. -/
def checkRevision (revision : Int64) : Outcome Unit :=
  if revision < 0 then
    .error (.invalid "revision" ("must be >= 0, got " ++ Text.signedDecimal revision.toInt))
  else .ok ()

/-- Log options ask for at least one line, of a container with a proper name. -/
def checkLogOptions (options : LogOptions) : Outcome Unit := do
  if let some tail := options.tailLines then
    if tail ≤ 0 then
      throw (.invalid "tail_lines" ("must be > 0, got " ++ Text.signedDecimal tail.toInt))
  if let some container := options.container then
    checkName "container" container

/-- The failure for an extension of another type than the expected one. -/
def wrongType (key expected : String) (value : Json) : Failure :=
  .invalid ("extensions." ++ key) ("must be a " ++ expected ++ ", got " ++ value.render)

/-- An extension that must be a text with something in it. -/
def requiredText (extensions : Extensions) (key : String) : Outcome String :=
  match extensions.get? key with
  | some (.string s) =>
    if Text.isBlankText s then .error (.invalid ("extensions." ++ key) "is required") else .ok s
  | none => .error (.invalid ("extensions." ++ key) "is required")
  | some other => .error (wrongType key "string" other)

/-- An extension that is a text where it is there; null and blank texts are as good as absent. -/
def optionalText (extensions : Extensions) (key : String) : Outcome (Option String) :=
  match extensions.get? key with
  | none => .ok none
  | some .null => .ok none
  | some (.string s) => .ok (if Text.isBlankText s then none else some s)
  | some other => .error (wrongType key "string" other)

/-- An extension that is a truth value where it is there. -/
def optionalBool (extensions : Extensions) (key : String) : Outcome (Option Bool) :=
  match extensions.get? key with
  | none => .ok none
  | some .null => .ok none
  | some (.bool b) => .ok (some b)
  | some other => .error (wrongType key "boolean" other)

end DeploymentGateway.Rules
