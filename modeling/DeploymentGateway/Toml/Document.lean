import DeploymentGateway.Toml.Lexeme
/-!
TOML documents: values with their nesting, the statements of a document, and the table they make.
-/

set_option autoImplicit false

namespace DeploymentGateway.Toml

/-- The text after a word. -/
private def skipWord? (word : String) (s : List Char) : Option (List Char) :=
  let expected := word.toList
  if expected.isPrefixOf s then some (s.drop expected.length) else none

mutual

/-- A value with as many levels of nesting as are left. The fuel bounds the number of values and
brackets, which the length of the text does too. -/
def readValue : Nat → Nat → List Char → Option (Value × List Char)
  | 0, _, _ => none
  | fuel + 1, depth, s =>
    match s with
    | [] => none
    | '[' :: rest =>
      if depth = 0 then none
      else (readItems fuel (depth - 1) rest).map fun (items, rest) => (.array items, rest)
    | '\x7b' :: rest =>
      if depth = 0 then none
      else do
        let (pairs, rest) ← match skipSpace rest with
          | '\x7d' :: rest => some ([], rest)
          | rest => readPairs fuel (depth - 1) rest
        let entries ← Entries.ofPairs pairs
        return (.table (Node.valuesOfEntries entries), rest)
    | 't' :: _ => (skipWord? "true" s).map fun rest => (.boolean true, rest)
    | 'f' :: _ => (skipWord? "false" s).map fun rest => (.boolean false, rest)
    | c :: _ =>
      if c == '"' || c == '\'' then
        (readString s).map fun (value, rest) => (.string value, rest)
      else (readMoment s).orElse fun _ => readNumber s

/-- The items of an array up to its closing bracket. -/
def readItems : Nat → Nat → List Char → Option (List Value × List Char)
  | 0, _, _ => none
  | fuel + 1, depth, s =>
    match skipLayout s with
    | ']' :: rest => some ([], rest)
    | s => do
      let (item, rest) ← readValue fuel depth s
      match skipLayout rest with
      | ',' :: rest => do
        let (items, rest) ← readItems fuel depth rest
        return (item :: items, rest)
      | ']' :: rest => return ([item], rest)
      | _ => none

/-- The keys and values of a table up to its closing brace. -/
def readPairs : Nat → Nat → List Char → Option (List (List String × Value) × List Char)
  | 0, _, _ => none
  | fuel + 1, depth, s => do
    let (key, rest) ← readKey s
    match rest with
    | '=' :: rest => do
      let (value, rest) ← readValue fuel depth (skipSpace rest)
      match skipSpace rest with
      | ',' :: rest => do
        let (pairs, rest) ← readPairs fuel depth rest
        return ((key, value) :: pairs, rest)
      | '\x7d' :: rest => return ([(key, value)], rest)
      | _ => none
    | _ => none

end

/-- A key with its value. -/
def readAssignment (s : List Char) : Option (Statement × List Char) := do
  let (key, rest) ← readKey s
  match rest with
  | '=' :: rest => do
    let (value, rest) ← readValue (2 * rest.length + 2) (nestingLimit - 1) (skipSpace rest)
    return (.assign key value, rest)
  | _ => none

/-- A statement at the start of a line. -/
def readStatement (s : List Char) : Option (Statement × List Char) :=
  match s with
  | '[' :: '[' :: rest => do
    match ← readKey rest with
    | (path, ']' :: ']' :: rest) => return (.itemHeader path, rest)
    | _ => none
  | '[' :: rest => do
    match ← readKey rest with
    | (path, ']' :: rest) => return (.header path, rest)
    | _ => none
  | s => readAssignment s

/-- The statements of a text. The fuel bounds the number of lines. -/
def readStatements : Nat → List Char → Option (List Statement)
  | 0, _ => none
  | fuel + 1, s =>
    match skipSpace s with
    | [] => some []
    | c :: rest =>
      let s := c :: rest
      if c == '#' || c == '\n' || c == '\r' then do
        readStatements fuel (← skipLineEnd? s)
      else do
        let (statement, rest) ← readStatement s
        let statements ← readStatements fuel (← skipLineEnd? rest)
        return statement :: statements

/-- The table that a document stands for, if it is TOML. A byte order mark may stand in front. -/
def parse? (source : String) : Option (List (String × Value)) := do
  let s := match source.toList with
    | '\uFEFF' :: rest => rest
    | s => s
  tableOf? (← readStatements (s.length + 1) s)

end DeploymentGateway.Toml
