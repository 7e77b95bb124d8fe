import DeploymentGateway.Json.Basic
import DeploymentGateway.Text.Letters
/-!
Reading and writing inside a JSON value along a path of names. Reading also goes through arrays, by
decimal index; writing and removing go through objects only. What is absent reads as none, never as
an error.
-/

set_option autoImplicit false

namespace DeploymentGateway.Json

/-- A path: the names of the fields to go through. -/
abbrev Path := List String

/-- The greatest index that an item of an array can be addressed by. -/
def greatestIndex : Nat := 18446744073709551615

/-- The part of a value one step below it. -/
def child? (value : Json) (segment : String) : Option Json :=
  match value with
  | .object fields => Fields.get? segment fields
  | .array items => (Text.readNatural? greatestIndex segment).bind fun index => items[index]?
  | _ => none

/-- The value at a path. -/
def lookup (value : Json) : Path → Option Json
  | [] => some value
  | segment :: rest => (value.child? segment).bind fun below => below.lookup rest

/-- The text at a path. -/
def string?At (value : Json) (path : Path) : Option String :=
  (value.lookup path).bind string?

/-- The text at a path, empty where there is none. -/
def stringAt (value : Json) (path : Path) : String :=
  (value.string?At path).getD ""

/-- The integer at a path: a number of 64 bits with sign, or a text that denotes one. -/
def intAt (value : Json) (path : Path) : Option Int :=
  match value.lookup path with
  | some (.number (.integer n)) => if fitsInt64 n then some n else none
  | some (.string s) => (Text.readInteger? s).bind fun n => if fitsInt64 n then some n else none
  | _ => none

/-- The truth value at a path. -/
def boolAt (value : Json) (path : Path) : Option Bool :=
  (value.lookup path).bind bool?

/-- The items of the array at a path, none of them where there is no array. -/
def arrayAt (value : Json) (path : Path) : List Json :=
  ((value.lookup path).bind array?).getD []

/-- The fields of a value that can be written into: those of an object, and none otherwise. -/
def writableFields : Json → List (String × Json)
  | .object fields => fields
  | _ => []

/-- Write a value at a path. What stands on the way and is no object is replaced by one. -/
def set (value : Json) (new : Json) : Path → Json
  | [] => new
  | segment :: rest =>
    let fields := value.writableFields
    let below := (Fields.get? segment fields).getD .null
    .object (Fields.insert segment (below.set new rest) fields)

/-- Write values below a path, each under its own name. -/
def setAll (value : Json) (path : Path) (fields : List (String × Json)) : Json :=
  fields.foldl (fun value (name, new) => value.set new (path ++ [name])) value

/-- Remove what stands at a path below objects. Returns the value without it and what was removed;
the value itself has no place it could be removed from. -/
def remove (value : Json) : Path → Json × Option Json
  | [] => (value, none)
  | [segment] =>
    match value with
    | .object fields =>
      match Fields.get? segment fields with
      | some found => (.object (Fields.erase segment fields), some found)
      | none => (value, none)
    | _ => (value, none)
  | segment :: rest =>
    match value with
    | .object fields =>
      match Fields.get? segment fields with
      | some below =>
        match below.remove rest with
        | (changed, some found) => (.object (Fields.insert segment changed fields), some found)
        | (_, none) => (value, none)
      | none => (value, none)
    | _ => (value, none)

end DeploymentGateway.Json
