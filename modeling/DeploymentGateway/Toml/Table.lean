import DeploymentGateway.Json.Basic
/-!
TOML values, and how a table grows from headers and keys. A table remembers how it came about, because
that decides what may still be added to it: a table that only longer names have implied may get a
header of its own, one that dotted keys have made may get further dotted keys, and one that stands
under its own header is not opened again by either.
-/

set_option autoImplicit false

namespace DeploymentGateway.Toml

/-- A TOML value. Of floating point numbers, dates and times only the kind is kept, since no setting
is one. -/
inductive Value where
  | string (value : String)
  | integer (value : Int)
  | float
  | boolean (value : Bool)
  | moment
  | array (items : List Value)
  | table (entries : List (String × Value))
  deriving Inhabited

/-- How a table came about. -/
inductive Origin where
  | declared
  | implied
  | dotted
  deriving DecidableEq

/-- A part of a document under construction: a finished value, a table, or the tables of an array in
order, of which only the last can still grow. -/
inductive Node where
  | value (value : Value)
  | table (origin : Origin) (entries : List (String × Node))
  | tables (items : List (List (String × Node)))
  deriving Inhabited

/-- The entries of a table under construction, by name. -/
abbrev Entries : Type := List (String × Node)

namespace Node

mutual

/-- The value that a finished construction stands for. -/
def toValue : Node → Value
  | value v => v
  | table _ entries => .table (valuesOfEntries entries)
  | tables items => .array (valuesOfTables items)

/-- The values of entries. -/
def valuesOfEntries : List (String × Node) → List (String × Value)
  | [] => []
  | (name, node) :: rest => (name, toValue node) :: valuesOfEntries rest

/-- The values of the tables of an array. -/
def valuesOfTables : List (List (String × Node)) → List Value
  | [] => []
  | entries :: rest => .table (valuesOfEntries entries) :: valuesOfTables rest

end

end Node

namespace Entries

/-- Change the table that a path leads to. Tables that are missing on the way come about as implied
or, where the path is a dotted key, as dotted ones. A dotted key does not go through tables that stand
under a header. A path goes into the last table of an array. -/
def modifyAt (isDotted : Bool) (change : Origin → Entries → Option Entries) :
    List String → Origin → Entries → Option Entries
  | [], origin, entries => change origin entries
  | name :: rest, _, entries =>
    match Fields.get? name entries with
    | none => do
      let origin : Origin := if isDotted then .dotted else .implied
      let below ← modifyAt isDotted change rest origin []
      return Fields.insert name (.table origin below) entries
    | some (.table origin below) =>
      if isDotted && origin == .declared then none
      else do
        let below ← modifyAt isDotted change rest origin below
        return Fields.insert name (.table origin below) entries
    | some (.tables items) => do
      let last ← items.getLast?
      let last ← modifyAt isDotted change rest .declared last
      return Fields.insert name (.tables (items.dropLast ++ [last])) entries
    | some (.value _) => none

/-- Add a value under a name that is not taken. A dotted key adds to dotted tables only. -/
def assign (isDotted : Bool) (name : String) (value : Value) (origin : Origin)
    (entries : Entries) : Option Entries :=
  if isDotted && origin != .dotted then none
  else match Fields.get? name entries with
    | some _ => none
    | none => some (Fields.insert name (.value value) entries)

/-- Add a value under a key of one or several names. -/
def assignAt (key : List String) (value : Value) (origin : Origin) (entries : Entries) :
    Option Entries :=
  match key.getLast? with
  | none => none
  | some name =>
    let path := key.dropLast
    modifyAt true (assign (!path.isEmpty) name value) path origin entries

/-- Open a table under its own header. -/
def declare (name : String) (_ : Origin) (entries : Entries) : Option Entries :=
  match Fields.get? name entries with
  | none => some (Fields.insert name (.table .declared []) entries)
  | some (.table .implied below) => some (Fields.insert name (.table .declared below) entries)
  | some _ => none

/-- Open a further table of an array. -/
def declareItem (name : String) (_ : Origin) (entries : Entries) : Option Entries :=
  match Fields.get? name entries with
  | none => some (Fields.insert name (.tables [[]]) entries)
  | some (.tables items) => some (Fields.insert name (.tables (items ++ [[]])) entries)
  | some _ => none

/-- The table of keys with their values, as it is written between braces. -/
def ofPairs (pairs : List (List String × Value)) : Option Entries :=
  pairs.foldlM (fun entries (key, value) => assignAt key value .declared entries) []

end Entries

/-- A statement of a document. -/
inductive Statement where
  | header (path : List String)
  | itemHeader (path : List String)
  | assign (key : List String) (value : Value)

/-- A document under construction: its entries, and the path of the table that keys go into. -/
structure Construction where
  entries : Entries
  current : List String

namespace Construction

/-- Apply a change of a table to the one before the last name of a path, and go to the path. -/
def openAt (c : Construction) (path : List String)
    (change : String → Origin → Entries → Option Entries) : Option Construction := do
  let name ← path.getLast?
  let entries ← Entries.modifyAt false (change name) path.dropLast .declared c.entries
  return ⟨entries, path⟩

/-- The construction after a statement, unless the statement contradicts what stands before it. -/
def step (c : Construction) : Statement → Option Construction
  | .header path => c.openAt path Entries.declare
  | .itemHeader path => c.openAt path Entries.declareItem
  | .assign key value => do
    let entries ← Entries.modifyAt false (Entries.assignAt key value) c.current .declared c.entries
    return { c with entries }

end Construction

/-- The table that statements make, unless two of them contradict each other. -/
def tableOf? (statements : List Statement) : Option (List (String × Value)) := do
  let done ← statements.foldlM Construction.step ⟨[], []⟩
  return Node.valuesOfEntries done.entries

end DeploymentGateway.Toml
