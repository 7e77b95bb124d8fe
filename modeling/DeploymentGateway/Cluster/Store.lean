import DeploymentGateway.Cluster.Basic
import DeploymentGateway.Cluster.Object
import DeploymentGateway.Text.Split
import DeploymentGateway.Time.Printer
/-!
A cluster in memory. Objects are kept under the plural of their kind, their namespace and their name.
Every write gives an object a fresh version, and an update that carries another version than the
stored one is refused.
-/

set_option autoImplicit false

namespace DeploymentGateway.Cluster

/-- Where an object is kept. The namespace is empty for kinds of the whole cluster. -/
structure ObjectKey where
  plural : String
  «namespace» : String
  name : String
  deriving DecidableEq

instance : OrderedKey ObjectKey where
  parts key := [key.plural, key.namespace, key.name]
  parts_injective a b h := by
    cases a
    cases b
    simp_all

/-- Where the logs of pods are kept: a namespace and a selector. -/
structure LogKey where
  «namespace» : String
  selector : String

instance : OrderedKey LogKey where
  parts key := [key.namespace, key.selector]
  parts_injective a b h := by
    cases a
    cases b
    simp_all

/-- A cluster in memory: its objects, the logs of its pods, the plurals of kinds whose updates it
refuses, and the number of versions it has given out. -/
structure Store where
  objects : SortedMap ObjectKey Json
  logs : SortedMap LogKey (List PodLog)
  rejectedUpdates : List String
  versions : Nat

namespace Store

/-- A cluster without objects. -/
def empty : Store :=
  ⟨.empty, .empty, [], 0⟩

/-- The key of an object of a kind. -/
def key (kind : ResourceKind) («namespace» name : String) : ObjectKey :=
  ⟨kind.plural, if kind.namespaced then «namespace» else "", name⟩

/-- One term of a selector: a label with its value, or a label with any value. -/
def termMatches (labels : Labels) (term : String) : Bool :=
  match Text.cutFirst? '=' term with
  | some (name, value) => labels.get? name == some value
  | none => labels.contains term

/-- An object has the labels that a selector asks for. Empty terms ask for nothing. -/
def selectorMatches (selector : Option String) (object : Json) : Bool :=
  match selector with
  | none => true
  | some selector =>
    ((Text.piecesAt ',' selector).filter fun term => !term.isEmpty).all
      (termMatches (labelsOf object))

/-- The next version, and the store that has given it out. -/
def nextVersion (store : Store) : String × Store :=
  (Text.decimal (store.versions + 1), { store with versions := store.versions + 1 })

/-- Put an object under a key, with a fresh version. -/
def write (store : Store) (key : ObjectKey) (object : Json) : Json × Store :=
  let (version, store) := store.nextVersion
  let object := object.set (.string version) ["metadata", "resourceVersion"]
  (object, { store with objects := store.objects.insert key object })

/-- Put an object in place as it is, filling in what the cluster itself would. -/
def seed (store : Store) (kind : ResourceKind) (object : Json) : Store :=
  let created := ["metadata", "creationTimestamp"]
  let dated := match object.lookup created with
    | some _ => object
    | none => object.set (.string "2024-01-01T00:00:00Z") created
  (store.write (key kind (namespaceOf object) (nameOf object)) dated).2

/-- The object of a kind with a name. -/
def object? (store : Store) (kind : ResourceKind) («namespace» name : String) : Option Json :=
  store.objects.get? (key kind «namespace» name)

/-- The object of a kind with a name, or the failure to find it. -/
def get (store : Store) (kind : ResourceKind) («namespace» name : String) :
    Except ClusterError Json :=
  match store.object? kind «namespace» name with
  | some object => .ok object
  | none => .error (.notFound kind.kind name)

/-- The objects of a kind in the order of their keys: those of one namespace or of all, and those
that a selector matches. -/
def list (store : Store) (kind : ResourceKind) («namespace» : Option String)
    (selector : Option String) : List Json :=
  let belongs (key : ObjectKey) : Bool :=
    key.plural == kind.plural &&
      (!kind.namespaced || match «namespace» with
        | some wanted => key.namespace == wanted
        | none => true)
  ((store.objects.toList.filter fun entry => belongs entry.1).map Prod.snd).filter
    (selectorMatches selector)

/-- Make a new object. The cluster sets its type, its namespace, when it was made and its first
generation. -/
def create (store : Store) (now : Time.Instant) (kind : ResourceKind) («namespace» : String)
    (object : Json) : Except ClusterError Json × Store :=
  let name := nameOf object
  if name.isEmpty then (.error (.invalidObject "metadata.name is required"), store)
  else if store.objects.contains (key kind «namespace» name) then
    (.error (.conflict (kind.kind ++ " " ++ name ++ " already exists")), store)
  else
    let object :=
      if kind.namespaced then object.set (.string «namespace») ["metadata", "namespace"] else object
    let object := object.set (.string kind.apiVersion) ["apiVersion"]
    let object := object.set (.string kind.kind) ["kind"]
    let object := object.set (.string now.textWithOffset) ["metadata", "creationTimestamp"]
    let object := object.set (.ofInt 1) ["metadata", "generation"]
    let (object, store) := store.write (key kind «namespace» name) object
    (.ok object, store)

/-- Generations are 64-bit numbers: the one after the largest is the smallest. -/
def nextGeneration (generation : Int) : Int :=
  (Int64.ofInt generation + 1).toInt

/-- Replace an object. The version it carries, if any, must be the stored one; its generation
becomes the one after the stored generation. -/
def update (store : Store) (kind : ResourceKind) («namespace» : String) (object : Json) :
    Except ClusterError Json × Store :=
  let name := nameOf object
  let modified : ClusterError := .conflict (kind.kind ++ " " ++ name ++ " was modified")
  if store.rejectedUpdates.contains kind.plural then (.error modified, store)
  else match store.object? kind «namespace» name with
    | none => (.error (.notFound kind.kind name), store)
    | some current =>
      let version := ["metadata", "resourceVersion"]
      let sent := object.stringAt version
      if !sent.isEmpty && sent != current.stringAt version then (.error modified, store)
      else
        let generation := (current.intAt ["metadata", "generation"]).getD 1
        let object := object.set (.ofInt (nextGeneration generation)) ["metadata", "generation"]
        let (object, store) := store.write (key kind «namespace» name) object
        (.ok object, store)

/-- Remove an object. -/
def delete (store : Store) (kind : ResourceKind) («namespace» name : String) :
    Except ClusterError Unit × Store :=
  if store.objects.contains (key kind «namespace» name) then
    (.ok (), { store with objects := store.objects.erase (key kind «namespace» name) })
  else (.error (.notFound kind.kind name), store)

/-- The logs kept for a namespace and a selector. -/
def podLogs (store : Store) («namespace» selector : String) : List PodLog :=
  (store.logs.get? ⟨«namespace», selector⟩).getD []

/-- Keep logs for a namespace and a selector. -/
def setLogs (store : Store) («namespace» selector : String) (logs : List PodLog) : Store :=
  { store with logs := store.logs.insert ⟨«namespace», selector⟩ logs }

/-- Refuse all further updates of a kind. -/
def rejectUpdates (store : Store) (kind : ResourceKind) : Store :=
  { store with rejectedUpdates := store.rejectedUpdates ++ [kind.plural] }

end Store

end DeploymentGateway.Cluster
