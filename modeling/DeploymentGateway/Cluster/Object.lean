import DeploymentGateway.Json.Path
import DeploymentGateway.Model.Deployment
import DeploymentGateway.Time.Reader
/-!
What every object of the cluster carries: its name, namespace and labels, when it was made, whether
it is being deleted, and the conditions that its controller reports.
-/

set_option autoImplicit false

namespace DeploymentGateway.Cluster

open Json (Path)

/-- The instant at a path, in the strict form. -/
def timeAt (object : Json) (path : Path) : Option Time.Instant :=
  (object.string?At path).bind Time.readStrict?

/-- The texts of the object at a path, by name; values of other types are left out. -/
def textsAt (object : Json) (path : Path) : Labels :=
  let fields := ((object.lookup path).bind Json.object?).getD []
  .ofList <| fields.filterMap fun (name, value) => value.string?.map fun s => (name, s)

/-- The name of an object. -/
def nameOf (object : Json) : String :=
  object.stringAt ["metadata", "name"]

/-- The namespace of an object, empty for one of the whole cluster. -/
def namespaceOf (object : Json) : String :=
  object.stringAt ["metadata", "namespace"]

/-- The labels of an object. -/
def labelsOf (object : Json) : Labels :=
  textsAt object ["metadata", "labels"]

/-- The object is being deleted. -/
def isDeleting (object : Json) : Bool :=
  match object.lookup ["metadata", "deletionTimestamp"] with
  | some value => !value.isNull
  | none => false

/-- When an object was made. -/
def createdAt (object : Json) : Option Time.Instant :=
  timeAt object ["metadata", "creationTimestamp"]

/-- The conditions in the status of an object. -/
def conditionsOf (object : Json) : List Condition :=
  (object.arrayAt ["status", "conditions"]).map fun entry =>
    { type := entry.stringAt ["type"]
      status := entry.stringAt ["status"]
      reason := entry.stringAt ["reason"]
      message := entry.stringAt ["message"]
      lastTransition := timeAt entry ["lastTransitionTime"] }

/-- The first condition of a type, whatever the case of its letters. -/
def findCondition (conditions : List Condition) (type : String) : Option Condition :=
  conditions.find? fun condition => Text.sameIgnoringCase condition.type type

/-- The last time at which one of the conditions changed. -/
def lastTransition (conditions : List Condition) : Option Time.Instant :=
  Time.Instant.latest? (conditions.filterMap fun condition => condition.lastTransition)

end DeploymentGateway.Cluster
