import DeploymentGateway.Json.Document
import DeploymentGateway.Sorted
/-!
Readers of typed values from documents. A reader goes through a document in the order of its text
and stops at the first fault: a place where the text is no JSON, or a value of the wrong kind. A
record is read from an object, where unknown fields are skipped and a known field may stand once, or
from an array that holds the fields in their declared order.
-/

set_option autoImplicit false

namespace DeploymentGateway.Json

/-- Why a document gives no value: its text is not JSON there, or it is JSON of another shape. -/
inductive Fault where
  | malformed
  | mismatch
  deriving DecidableEq

/-- A reader is given the depth of nesting that is still allowed. -/
def Reader (α : Type) : Type :=
  Nat → Document → Except Fault α

namespace Reader

variable {α β : Type}

/-- The nesting that a text may have. -/
def depthLimit : Nat := 128

/-- Go one level down, unless the limit is reached there. -/
def descend (depth : Nat) : Except Fault Nat :=
  if depth ≤ 1 then .error .malformed else .ok (depth - 1)

/-- Whatever is read is converted; a value without an image is of the wrong kind. -/
def convert (reader : Reader α) (f : α → Option β) : Reader β := fun depth document => do
  match f (← reader depth document) with
  | some b => .ok b
  | none => .error .mismatch

/-- The fault of a document that is not of the expected kind. -/
def refuse (document : Document) : Except Fault α :=
  match document with
  | .broken => .error .malformed
  | .string none => .error .malformed
  | .number (.float none) => .error .malformed
  | _ => .error .mismatch

/-- A text. -/
def text : Reader String := fun _ document =>
  match document with
  | .string (some s) => .ok s
  | other => refuse other

/-- A truth value. -/
def bool : Reader Bool := fun _ document =>
  match document with
  | .bool b => .ok b
  | other => refuse other

/-- An integer between two bounds, written without point and exponent. -/
def integer (low high : Int) : Reader Int := fun _ document =>
  match document with
  | .number (.integer n) => if low ≤ n ∧ n ≤ high then .ok n else .error .mismatch
  | other => refuse other

/-- An integer of 64 bits with sign. -/
def int64 : Reader Int64 :=
  convert (integer (-9223372036854775808) 9223372036854775807) fun n => some (Int64.ofInt n)

/-- An integer of 32 bits with sign. -/
def int32 : Reader Int32 :=
  convert (integer (-2147483648) 2147483647) fun n => some (Int32.ofInt n)

/-- A natural number of 64 bits. -/
def uint64 : Reader UInt64 :=
  convert (integer 0 18446744073709551615) fun n => some (UInt64.ofNat n.toNat)

/-- A natural number of eight bits. -/
def uint8 : Reader UInt8 :=
  convert (integer 0 255) fun n => some (UInt8.ofNat n.toNat)

/-- A value, or null for its absence. -/
def nullable (reader : Reader α) : Reader (Option α) := fun depth document =>
  match document with
  | .null => .ok none
  | other => (reader depth other).map some

/-- The items of an array, in order. -/
def list (reader : Reader α) : Reader (List α) := fun depth document =>
  match document with
  | .array items closed => do
    let depth ← descend depth
    let values ← items.mapM (reader depth)
    if closed then .ok values else .error .malformed
  | other => refuse other

/-- The fields of an object in a map; of two fields with one name the later counts. -/
def map (reader : Reader α) : Reader (SortedMap String α) := fun depth document =>
  match document with
  | .object fields closed => do
    let depth ← descend depth
    let entries ← fields.mapM fun (name, value) =>
      match name with
      | none => Except.error Fault.malformed
      | some name => (reader depth value).map fun a => (name, a)
    if closed then .ok (SortedMap.ofList entries) else .error .malformed
  | other => refuse other

mutual

/-- A value of any kind. -/
def json : Reader Json := fun depth document =>
  match document with
  | .null => .ok .null
  | .bool b => .ok (.bool b)
  | .number (.integer n) => .ok (.number (.integer n))
  | .number (.float (some x)) => .ok (.number (.float x))
  | .number (.float none) => .error .malformed
  | .string (some s) => .ok (.string s)
  | .string none => .error .malformed
  | .array items closed =>
    if depth ≤ 1 then .error .malformed
    else match jsonItems (depth - 1) items with
      | .error fault => .error fault
      | .ok values => if closed then .ok (.array values) else .error .malformed
  | .object fields closed =>
    if depth ≤ 1 then .error .malformed
    else match jsonFields (depth - 1) [] fields with
      | .error fault => .error fault
      | .ok values => if closed then .ok (.object values) else .error .malformed
  | .broken => .error .malformed

/-- The items of an array as values. -/
def jsonItems (depth : Nat) : List Document → Except Fault (List Json)
  | [] => .ok []
  | item :: rest =>
    match json depth item with
    | .error fault => .error fault
    | .ok value => (jsonItems depth rest).map (value :: ·)

/-- The fields of an object as values, added to those before them. -/
def jsonFields (depth : Nat) (before : List (String × Json)) :
    List (Option String × Document) → Except Fault (List (String × Json))
  | [] => .ok before
  | (none, _) :: _ => .error .malformed
  | (some name, value) :: rest =>
    match json depth value with
    | .error fault => .error fault
    | .ok value => jsonFields depth (Fields.insert name value before) rest

end

/-- One word of a closed vocabulary: the word itself, or an object whose only field has it for a
name and null for a value. -/
def word (ofWord? : String → Option α) : Reader α := fun _ document =>
  match document with
  | .string (some s) =>
    match ofWord? s with
    | some a => .ok a
    | none => .error .mismatch
  | .object [(some name, .null)] true =>
    match ofWord? name with
    | some a => .ok a
    | none => .error .mismatch
  | .object _ false => .error .malformed
  | other => refuse other

end Reader

/-- What a record says of one of its fields: the name, how to find the first fault in a value, and
whether the field has a value of its own where the record is an array that ends before it. -/
structure FieldRule where
  name : String
  check : Nat → Document → Except Fault Unit
  defaulted : Bool

/-- A description of a record: the rules of its fields in declared order, and the record made of the
values found for them. -/
structure Record (α : Type) where
  rules : List FieldRule
  build : Nat → (String → Option Document) → Except Fault α

namespace Record

variable {α β : Type}

/-- A record without fields. -/
def pure (a : α) : Record α :=
  ⟨[], fun _ _ => .ok a⟩

/-- Add the fields of one record to those of another. -/
def apply (f : Record (α → β)) (a : Record α) : Record β where
  rules := f.rules ++ a.rules
  build := fun depth find => do
    let f ← f.build depth find
    let a ← a.build depth find
    .ok (f a)

instance : Functor Record where
  map f a := apply (pure f) a

instance : Seq Record where
  seq f a := apply f (a ())

/-- A field with a rule for its absence. -/
def field (name : String) (reader : Reader α) (defaulted : Bool) (absent : Except Fault α) :
    Record α where
  rules := [⟨name, fun depth document => (reader depth document).map fun _ => (), defaulted⟩]
  build := fun depth find =>
    match find name with
    | some document => reader depth document
    | none => absent

/-- A field that must be there. -/
def required (name : String) (reader : Reader α) : Record α :=
  field name reader false (.error .mismatch)

/-- A field that may be missing or null. -/
def optional (name : String) (reader : Reader α) : Record (Option α) :=
  field name (Reader.nullable reader) false (.ok none)

/-- A field that may be missing or null, also at the end of an array. -/
def optionalAnywhere (name : String) (reader : Reader α) : Record (Option α) :=
  field name (Reader.nullable reader) true (.ok none)

/-- A field with a default where it is missing. -/
def withDefault (name : String) (reader : Reader α) (default : α) : Record α :=
  field name reader true (.ok default)

/-- Go through the fields of an object in the order of the text. Each known field may stand once and
must be readable; the others are skipped. -/
def scanFields (rules : List FieldRule) (depth : Nat) :
    List (Option String × Document) → List (String × Document) →
      Except Fault (List (String × Document))
  | [], found => .ok found
  | (none, _) :: _, _ => .error .malformed
  | (some name, value) :: rest, found =>
    match rules.find? fun rule => rule.name == name with
    | none => if value.isWhole then scanFields rules depth rest found else .error .malformed
    | some rule =>
      if found.any fun entry => entry.1 == name then .error .mismatch
      else match rule.check depth value with
        | .error fault => .error fault
        | .ok () => scanFields rules depth rest (found ++ [(name, value)])

/-- Go through the items of an array, one for each field; only fields with a default may be missing
at the end. -/
def scanItems (closed : Bool) (depth : Nat) :
    List FieldRule → List Document → Except Fault (List (String × Document))
  | [], [] => if closed then .ok [] else .error .malformed
  | [], _ :: _ => .error .malformed
  | rule :: rules, [] =>
    if !closed then .error .malformed
    else if rule.defaulted then scanItems closed depth rules [] else .error .mismatch
  | rule :: rules, item :: items =>
    match rule.check depth item with
    | .error fault => .error fault
    | .ok () => (scanItems closed depth rules items).map ((rule.name, item) :: ·)

/-- The reader that a record describes. -/
def reader (record : Record α) : Reader α := fun depth document =>
  match document with
  | .object fields closed => do
    let depth ← Reader.descend depth
    let found ← scanFields record.rules depth fields []
    if closed then record.build depth (fun name => Fields.get? name found) else .error .malformed
  | .array items closed => do
    let depth ← Reader.descend depth
    let found ← scanItems closed depth record.rules items
    record.build depth (fun name => Fields.get? name found)
  | other => Reader.refuse other

end Record

mutual

/-- How many arrays and objects of a value stand inside each other at most. -/
def nesting : Json → Nat
  | .array items => nestingOfItems items + 1
  | .object fields => nestingOfFields fields + 1
  | _ => 0

/-- The greatest nesting of some values. -/
def nestingOfItems : List Json → Nat
  | [] => 0
  | item :: rest => max (nesting item) (nestingOfItems rest)

/-- The greatest nesting of the values of some fields. -/
def nestingOfFields : List (String × Json) → Nat
  | [] => 0
  | (_, value) :: rest => max (nesting value) (nestingOfFields rest)

end

namespace Reader

variable {α : Type}

/-- Read a value that is already in memory, where nesting has no limit. -/
def run (reader : Reader α) (value : Json) : Except Fault α :=
  reader (value.nesting + 1) (Document.ofJson value)

/-- Read a whole text. What follows the value must be blank. -/
def runText (reader : Reader α) (source : String) : Except Fault α := do
  let (document, ended) := Document.read source
  let value ← reader depthLimit document
  if ended then .ok value else .error .malformed

end Reader

/-- The value that a text denotes, if it is JSON. -/
def parse? (source : String) : Option Json :=
  match Reader.runText Reader.json source with
  | .ok value => some value
  | .error _ => none

end DeploymentGateway.Json
