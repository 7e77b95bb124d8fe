import DeploymentGateway.Json.Basic
/-!
The cluster as the gateway sees it: kinds of resources, what can go wrong, and the logs of pods.
Objects are untyped values, because their schemas belong to the controllers that define them.
-/

set_option autoImplicit false

namespace DeploymentGateway.Cluster

/-- The coordinates of a type of resource. -/
structure ResourceKind where
  group : String
  version : String
  kind : String
  plural : String
  namespaced : Bool
  deriving DecidableEq

/-- The version of a kind as objects carry it: the group and the version, or the version alone in
the core group. -/
def ResourceKind.apiVersion (kind : ResourceKind) : String :=
  if kind.group.isEmpty then kind.version else kind.group ++ "/" ++ kind.version

/-- Why the cluster did not do what it was asked. The last one is any other answer of its API, whose
text is not the gateway's. -/
inductive ClusterError where
  | notFound (kind name : String)
  | conflict (message : String)
  | invalidObject (message : String)
  | api
  deriving DecidableEq

/-- The text of a failure, absent where it is not the gateway's. -/
def ClusterError.message? : ClusterError → Option String
  | .notFound kind name => some (kind ++ " " ++ name ++ " not found")
  | .conflict message => some ("conflict: " ++ message)
  | .invalidObject message => some ("invalid object: " ++ message)
  | .api => none

/-- The log of one container of a pod. -/
structure PodLog where
  pod : String
  container : Option String
  text : String

/-- The log of a container as a value. -/
def PodLog.toJson (log : PodLog) : Json :=
  .ofPairs [
    ("pod", .string log.pod), ("container", .ofText? log.container), ("text", .string log.text)]

end DeploymentGateway.Cluster
