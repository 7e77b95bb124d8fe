import DeploymentGateway.Http.Message
import DeploymentGateway.Model.Package
import DeploymentGateway.Text.Blank
import DeploymentGateway.Text.Percent
import DeploymentGateway.Text.Quoted
/-!
Queries of targets: the parameters of listings and of logs. A parameter that is known may stand once;
all others are ignored.
-/

set_option autoImplicit false

namespace DeploymentGateway.Http

/-- The parameters of a query, in order. -/
abbrev Parameters : Type := List (String × String)

/-- The one value of a parameter, if it is there. Two of them are refused. -/
def parameter (parameters : Parameters) (name : String) : Option (Option String) :=
  match (parameters.filter fun p => p.1 == name).map Prod.snd with
  | [] => some none
  | [value] => some (some value)
  | _ => none

/-- The value of a parameter after reading, if it is there. -/
def readParameter {α : Type} (parameters : Parameters) (name : String)
    (read : String → Option α) : Option (Option α) := do
  match ← parameter parameters name with
  | some value => return some (← read value)
  | none => return none

/-- A natural number of 64 bits. -/
def readCount (s : String) : Option UInt64 :=
  (Text.readNatural? 18446744073709551615 s).map UInt64.ofNat

/-- An integer of 64 bits with sign. -/
def readInt64 (s : String) : Option Int64 :=
  (Text.readInteger? s).bind fun n => if Json.fitsInt64 n then some (Int64.ofInt n) else none

/-- The parameters of a listing as they were sent. -/
structure ListQuery where
  «namespace» : Option String
  status : Option DeploymentStatus
  /-- Terms of a label and its value, separated by commas. -/
  labels : Option String
  /-- The kind of resources, where a back end has several. -/
  kind : Option String
  limit : UInt64
  offset : UInt64

namespace ListQuery

/-- The listing that a query asks for. -/
def ofQuery? (query : String) : Option ListQuery := do
  let parameters := Text.Form.pairs query
  let «namespace» ← parameter parameters "namespace"
  let status ← readParameter parameters "status" DeploymentStatus.ofWord?
  let labels ← parameter parameters "labels"
  let kind ← parameter parameters "kind"
  let limit ← readParameter parameters "limit" readCount
  let offset ← readParameter parameters "offset" readCount
  return {
    «namespace», status, labels, kind
    limit := limit.getD 0
    offset := offset.getD 0 }

/-- The terms of a selector that are not blank. -/
def terms (selector : String) : List String :=
  (Text.piecesAt ',' selector).filter fun term => !Text.isBlankText term

/-- Labels with those of some terms added, or the first term that has no equals sign. -/
def addTerms (labels : Labels) : List String → Except String Labels
  | [] => .ok labels
  | term :: rest =>
    match Text.cutFirst? '=' term with
    | some (name, value) => addTerms (labels.insert (Text.trim name) (Text.trim value)) rest
    | none => .error term

/-- The filter for a listing, or the term of the selector that is none. -/
def toFilter (query : ListQuery) : Except String Filter := do
  let labels ← addTerms .empty (terms (query.labels.getD ""))
  let extensions : Extensions := match query.kind with
    | some kind => SortedMap.empty.insert "kind" (.string kind)
    | none => .empty
  return {
    «namespace» := query.namespace.filter fun s => !s.isEmpty
    status := query.status
    labels, extensions
    limit := query.limit
    offset := query.offset }

/-- What a term that is no label with a value is refused with. -/
def refusal (term : String) : String :=
  "invalid label selector " ++ Text.quoted term ++ ", expected key=value"

end ListQuery

/-- The log lines that a query asks for. -/
def logOptionsOfQuery? (query : String) : Option LogOptions := do
  let parameters := Text.Form.pairs query
  let tailLines ← readParameter parameters "tail_lines" readInt64
  let container ← parameter parameters "container"
  return ⟨tailLines, container⟩

end DeploymentGateway.Http
