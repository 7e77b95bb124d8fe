import DeploymentGateway.Http.Token
import DeploymentGateway.Text.Letters
/-!
Media types: a type, a subtype with an optional suffix, and parameters. They say whether the body of a
request is JSON.
-/

set_option autoImplicit false

namespace DeploymentGateway.Http

/-- A media type without its parameters, in small letters. -/
structure MediaType where
  type : String
  subtype : String
  suffix : Option String
  deriving DecidableEq

namespace MediaType

/-- The characters that may stand in quotes. -/
def isQuotable (c : Char) : Bool :=
  ' ' ≤ c && c.toNat < 0x7F

/-- The rest of a text after a name, which has at least one character. -/
def skipName (s : List Char) : Option (List Char) :=
  if s.head?.any isTokenCharacter then some (s.dropWhile isTokenCharacter) else none

/-- What may follow a parameter whose value is quoted: blanks, then the next one or the end. -/
def skipAfterQuote (s : List Char) : Option (List Char) :=
  match s.dropWhile (· == ' ') with
  | [] => some []
  | ';' :: rest => some rest
  | _ => none

/-- The rest of a text after a quoted value and the mark that ends it. The value has at least one
character, of which the first may be a quote too. -/
def skipQuoted : List Char → Option (List Char)
  | [] => none
  | first :: rest =>
    match rest.dropWhile fun c => isQuotable c && c != '"' with
    | '"' :: after => if isQuotable first then skipAfterQuote after else none
    | _ => none

/-- The rest of a text after the value of a parameter and the mark that ends it. Only at the end of the
text may there be no value. -/
def skipValue : List Char → Option (List Char)
  | '"' :: rest => skipQuoted rest
  | s =>
    match s.dropWhile isTokenCharacter with
    | [] => some []
    | ';' :: rest => if s.head?.any isTokenCharacter then some rest else none
    | _ => none

/-- The rest of a text after a parameter. -/
def skipParameter (s : List Char) : Option (List Char) :=
  match skipName s with
  | some ('=' :: rest) => skipValue rest
  | _ => none

/-- The rest of the text is a list of parameters, each with blanks in front. The fuel bounds their
number. -/
def areParameters : Nat → List Char → Bool
  | 0, _ => false
  | fuel + 1, s =>
    match s.dropWhile (· == ' ') with
    | [] => true
    | s =>
      match skipParameter s with
      | some rest => areParameters fuel rest
      | none => false

/-- A subtype and the suffix after its last plus, if there is one behind the first character. -/
def splitSuffix (subtype : List Char) : List Char × Option (List Char) :=
  let afterPlus := (subtype.reverse.takeWhile (· != '+')).reverse
  let before := subtype.take (subtype.length - afterPlus.length - 1)
  if before.isEmpty then (subtype, none) else (before, some afterPlus)

/-- The media type in the value of a header. -/
def ofHeader? (value : String) : Option MediaType :=
  let s := value.toList
  let type := s.takeWhile isTokenCharacter
  match s.dropWhile isTokenCharacter with
  | '/' :: rest =>
    let subtype := rest.takeWhile isTokenCharacter
    let wellFormed := match rest.dropWhile isTokenCharacter with
      | [] => true
      | ';' :: parameters =>
        !subtype.isEmpty && areParameters (parameters.length + 1) parameters
      | _ => false
    if type.isEmpty || !wellFormed then none
    else
      let (base, suffix) := splitSuffix subtype
      let small (name : List Char) : String := Text.lowercase (String.ofList name)
      some ⟨small type, small base, suffix.map small⟩
  | _ => none

/-- The type says that the content is JSON. -/
def isJson (type : MediaType) : Bool :=
  type.type == "application" && (type.subtype == "json" || type.suffix == some "json")

end MediaType

end DeploymentGateway.Http
