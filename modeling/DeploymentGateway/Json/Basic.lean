import DeploymentGateway.Number.Binary64
/-!
JSON values. An object is a list of fields in increasing order of their names, each name once; the
functions on field lists keep such lists such, and have their laws on every list of fields.
-/

set_option autoImplicit false

namespace DeploymentGateway

/-- A JSON number is an integer, or a floating point number where it was written with a point or an
exponent or does not fit 64 bits. -/
inductive JsonNumber where
  | integer (value : Int)
  | float (value : Number.Binary64)
  deriving DecidableEq

/-- A JSON value. -/
inductive Json where
  | null
  | bool (value : Bool)
  | number (value : JsonNumber)
  | string (value : String)
  | array (items : List Json)
  | object (fields : List (String × Json))
  deriving Inhabited

namespace Fields

variable {α : Type}

/-- The value of the first field with a name. -/
def get? (name : String) : List (String × α) → Option α
  | [] => none
  | (key, value) :: rest => if key = name then some value else get? name rest

/-- Set a field: in the place of the field of that name, or else in front of the first greater
name. -/
def insert (name : String) (value : α) : List (String × α) → List (String × α)
  | [] => [(name, value)]
  | (key, old) :: rest =>
    if key = name then (name, value) :: rest
    else if name < key then (name, value) :: (key, old) :: rest
    else (key, old) :: insert name value rest

/-- Leave out every field with a name. -/
def erase (name : String) (fields : List (String × α)) : List (String × α) :=
  fields.filter fun field => field.1 ≠ name

/-- The fields of a list of pairs; of two pairs with one name the later counts. -/
def ofPairs (pairs : List (String × α)) : List (String × α) :=
  pairs.foldl (fun fields pair => insert pair.1 pair.2 fields) []

theorem get?_insert_self (name : String) (value : α) (fields : List (String × α)) :
    get? name (insert name value fields) = some value := by
  induction fields with
  | nil => simp [insert, get?]
  | cons field rest ih =>
    obtain ⟨key, old⟩ := field
    unfold insert
    split
    · simp [get?]
    · split
      · simp [get?]
      · simp_all [get?]

theorem get?_insert_of_ne {name other : String} (h : other ≠ name) (value : α)
    (fields : List (String × α)) : get? other (insert name value fields) = get? other fields := by
  induction fields with
  | nil => simp [insert, get?, Ne.symm h]
  | cons field rest ih =>
    obtain ⟨key, old⟩ := field
    unfold insert
    split
    · rename_i same
      subst same
      simp [get?, Ne.symm h]
    · split
      · simp [get?, Ne.symm h]
      · simp [get?, ih]

theorem get?_erase_self (name : String) (fields : List (String × α)) :
    get? name (erase name fields) = none := by
  induction fields with
  | nil => rfl
  | cons field rest ih =>
    obtain ⟨key, old⟩ := field
    by_cases h : key = name <;> simp_all [erase, get?]

theorem get?_erase_of_ne {name other : String} (h : other ≠ name) (fields : List (String × α)) :
    get? other (erase name fields) = get? other fields := by
  induction fields with
  | nil => rfl
  | cons field rest ih =>
    obtain ⟨key, old⟩ := field
    by_cases hk : key = name
    · subst hk
      have : key ≠ other := fun e => h e.symm
      simp_all [erase, get?]
    · by_cases ho : key = other <;> simp_all [erase, get?]

end Fields

namespace Json

/-- An integer as a value. -/
def ofInt (n : Int) : Json :=
  .number (.integer n)

/-- The object with the given pairs as fields. -/
def ofPairs (pairs : List (String × Json)) : Json :=
  .object (Fields.ofPairs pairs)

/-- The text of a string value. -/
def string? : Json → Option String
  | .string s => some s
  | _ => none

/-- The truth value of a boolean. -/
def bool? : Json → Option Bool
  | .bool b => some b
  | _ => none

/-- The items of an array. -/
def array? : Json → Option (List Json)
  | .array items => some items
  | _ => none

/-- The fields of an object. -/
def object? : Json → Option (List (String × Json))
  | .object fields => some fields
  | _ => none

/-- An integer in the range of signed 64-bit words. -/
def fitsInt64 (n : Int) : Bool :=
  -9223372036854775808 ≤ n && n ≤ 9223372036854775807

/-- The null value. -/
def isNull : Json → Bool
  | .null => true
  | _ => false

/-- An optional text, or null. -/
def ofText? : Option String → Json
  | some s => .string s
  | none => .null

end Json

end DeploymentGateway
