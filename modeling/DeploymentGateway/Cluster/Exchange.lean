import DeploymentGateway.Cluster.Basic
import DeploymentGateway.Cluster.Metadata
import DeploymentGateway.Server.Answer
import DeploymentGateway.Server.Request
import DeploymentGateway.Text.Quoted
/-!
The API of a cluster over HTTP: the request for each thing that the gateway asks of a cluster, and what
its answers mean. A missing object and a conflict are told apart from every other failure.
-/

set_option autoImplicit false

namespace DeploymentGateway.Cluster

open Json (Reader Record)
open Server (Answer Request)

/-- One exchange with the API: what is sent, and how the answer is read. -/
structure Exchange (α : Type) where
  request : Request
  read : Answer → Except ClusterError α

namespace Exchange

variable {α : Type}

/-- The path of the objects of a kind, in one namespace or in all. -/
def collectionPath (kind : ResourceKind) («namespace» : Option String) : String :=
  let version := (if kind.group.isEmpty then "/api/" else "/apis/") ++ kind.apiVersion
  match «namespace».filter fun s => kind.namespaced && !s.isEmpty with
  | some home => version ++ "/namespaces/" ++ home ++ "/" ++ kind.plural
  | none => version ++ "/" ++ kind.plural

/-- The path of one object of a kind. -/
def objectPath (kind : ResourceKind) («namespace» name : String) : String :=
  collectionPath kind (some «namespace») ++ "/" ++ name

/-- What the API complains of: a code and a message. -/
def complaintRecord : Record (Int × String) :=
  (fun _ message _ code => (code, message)) <$> .required "status" Reader.text <*>
    .withDefault "message" Reader.text "" <*> .withDefault "reason" Reader.text "" <*>
    .required "code" (Reader.integer 0 65535)

/-- The complaint in an answer. A body of another form is the message itself, in quotes. -/
def complaintOf (answer : Answer) : Int × String :=
  match Reader.runText complaintRecord.reader answer.body with
  | .ok complaint => complaint
  | .error _ => (answer.code, Text.quoted answer.body)

/-- What a complaint about an object of a kind means. -/
def failureOf (kind : ResourceKind) (name : String) (answer : Answer) : ClusterError :=
  match complaintOf answer with
  | (404, _) => .notFound kind.kind name
  | (409, message) => .conflict message
  | _ => .api

/-- The text of an answer, or what its complaint means. -/
def textOf (complaint : Answer → ClusterError) (answer : Answer) : Except ClusterError String :=
  if 400 ≤ answer.code then .error (complaint answer) else .ok answer.body

/-- The value of an answer in a form that is expected, or what its complaint means. -/
def valueOf (complaint : Answer → ClusterError) (form : Json → Option α) (answer : Answer) :
    Except ClusterError α := do
  match (Json.parse? (← textOf complaint answer)).bind form with
  | some value => return value
  | none => throw .api

/-- The objects in a list. -/
def listedObjects (value : Json) : Option (List Json) := do
  match Fields.get? "items" (← value.object?) with
  | some (.array items) => items.mapM typedObject?
  | some .null => return []
  | _ => none

/-- A selector as the query of a list request. -/
def selectorQuery : Option String → List (String × String)
  | some selector => [("labelSelector", selector)]
  | none => []

/-- Read an object. -/
def get (kind : ResourceKind) («namespace» name : String) : Exchange Json where
  request := ⟨.get, objectPath kind «namespace» name, [], none⟩
  read := valueOf (failureOf kind name) typedObject?

/-- List the objects of a kind that a selector matches, in one namespace or in all. -/
def list (kind : ResourceKind) («namespace» selector : Option String) : Exchange (List Json) where
  request := ⟨.get, collectionPath kind «namespace», selectorQuery selector, none⟩
  read := valueOf (failureOf kind "") listedObjects

/-- An object of a kind as it is sent. Its type is filled in where it is missing. -/
def sent (kind : ResourceKind) (object : Json) : Except ClusterError Json :=
  let fill (name value : String) (fields : List (String × Json)) : List (String × Json) :=
    match Fields.get? name fields with
    | some _ => fields
    | none => Fields.insert name (.string value) fields
  let filled := match object with
    | .object fields => .object (fill "apiVersion" kind.apiVersion (fill "kind" kind.kind fields))
    | other => other
  match typedObject? filled with
  | some object => .ok object
  | none => .error (.invalidObject "metadata is not well typed")

/-- Make an object, unless it cannot be sent. -/
def create (kind : ResourceKind) («namespace» : String) (object : Json) :
    Except ClusterError (Exchange Json) := do
  let object ← sent kind object
  let name := object.stringAt ["metadata", "name"]
  return {
    request := ⟨.post, collectionPath kind (some «namespace»), [], some object⟩
    read := valueOf (failureOf kind name) typedObject? }

/-- Replace an object, unless it cannot be sent or does not tell which one it replaces. -/
def update (kind : ResourceKind) («namespace» : String) (object : Json) :
    Except ClusterError (Exchange Json) := do
  let object ← sent kind object
  match object.string?At ["metadata", "name"] with
  | none => throw (.invalidObject "metadata.name is required")
  | some name => return {
      request := ⟨.put, objectPath kind «namespace» name, [], some object⟩
      read := valueOf (failureOf kind name) typedObject? }

/-- Remove an object after what it owns. -/
def delete (kind : ResourceKind) («namespace» name : String) : Exchange Unit where
  request := ⟨.delete, objectPath kind «namespace» name, [],
    some (.ofPairs [("propagationPolicy", .string "Foreground")])⟩
  read := valueOf (failureOf kind name) fun _ => some ()

/-- The kind of pods. -/
def podKind : ResourceKind :=
  ⟨"", "v1", "Pod", "pods", true⟩

/-- Find the names of the pods that a selector matches. Pods without a name are passed over. -/
def podNames («namespace» selector : String) : Exchange (List String) where
  request := ⟨.get, collectionPath podKind (some «namespace»), selectorQuery (some selector), none⟩
  read := valueOf (fun _ => .api) fun value =>
    (listedObjects value).map (List.filterMap fun pod => pod.string?At ["metadata", "name"])

/-- Read the log of a pod, of one container or of the only one, from its end. -/
def podLog («namespace» pod : String) (container : Option String) (tailLines : Option Int64) :
    Exchange String where
  request := ⟨.get, objectPath podKind «namespace» pod ++ "/log",
    (container.map fun name => ("container", name)).toList ++
      (tailLines.map fun n => ("tailLines", Text.signedDecimal n.toInt)).toList, none⟩
  read := textOf fun _ => .api

/-- Ask for the version of the API, as a sign of life. -/
def version : Exchange Unit where
  request := ⟨.get, "/version", [], none⟩
  read := valueOf (fun _ => .api) fun value => value.object?.map fun _ => ()

end Exchange

end DeploymentGateway.Cluster
