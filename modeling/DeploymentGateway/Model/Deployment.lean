import DeploymentGateway.Json.Basic
import DeploymentGateway.Sorted
import DeploymentGateway.Time.Instant
/-!
Deployments as every back end presents them: the deployment itself, requests for one and changes to
one, its status with conditions, its history and its logs.
-/

set_option autoImplicit false

namespace DeploymentGateway

/-- Texts by name, such as labels. -/
abbrev Labels : Type := SortedMap String String

/-- Values by name, such as the fields that only some back ends know. -/
abbrev Extensions : Type := SortedMap String Json

/-- The canonical status of a deployment. -/
inductive DeploymentStatus where
  | pending
  | deploying
  | deployed
  | failed
  | rollingBack
  | deleting
  deriving DecidableEq

namespace DeploymentStatus

/-- Every status. -/
def all : List DeploymentStatus :=
  [pending, deploying, deployed, failed, rollingBack, deleting]

/-- The word for a status. -/
def word : DeploymentStatus → String
  | pending => "pending"
  | deploying => "deploying"
  | deployed => "deployed"
  | failed => "failed"
  | rollingBack => "rolling-back"
  | deleting => "deleting"

/-- The status that a word stands for. -/
def ofWord? (word : String) : Option DeploymentStatus :=
  all.find? fun status => status.word == word

/-- What a word that stands for no status is refused with. -/
def refusal (word : String) : String :=
  "unknown deployment status: " ++ word

end DeploymentStatus

/-- A workload that a back end runs. -/
structure Deployment where
  /-- The name of the resource in the back end, for as long as the deployment lives. -/
  id : String
  name : String
  packageId : String
  «namespace» : String
  status : DeploymentStatus
  /-- The back end's count of revisions. -/
  version : Int64
  description : String
  createdAt : Time.Instant
  updatedAt : Time.Instant
  labels : Labels
  extensions : Extensions

/-- What a caller asks for when it creates a deployment. -/
structure DeploymentRequest where
  name : String
  «namespace» : String
  packageId : Option String
  values : Extensions
  labels : Labels
  extensions : Extensions

/-- What a caller changes of a deployment. Labels are added to those it has. -/
structure DeploymentUpdate where
  packageId : Option String
  values : Extensions
  labels : Labels
  extensions : Extensions

/-- One statement of a controller about an object. -/
structure Condition where
  type : String
  status : String
  reason : String
  message : String
  lastTransition : Option Time.Instant
  deriving DecidableEq

/-- The status of a deployment in detail. The progress is an estimate from 0 to 100. -/
structure StatusDetail where
  id : String
  status : DeploymentStatus
  message : String
  progress : UInt8
  conditions : List Condition
  updatedAt : Time.Instant
  extensions : Extensions

/-- One entry of a history, with its position, oldest first. -/
structure Revision where
  revision : Int64
  version : String
  deployedAt : Time.Instant
  status : DeploymentStatus
  description : String

/-- The revisions of a deployment, oldest first. -/
structure History where
  deploymentId : String
  revisions : List Revision

/-- Which log lines a caller wants. -/
structure LogOptions where
  tailLines : Option Int64
  container : Option String

/-- The log lines of one container. -/
structure LogEntry where
  pod : String
  container : Option String
  lines : List String

/-- The log lines of a deployment. -/
structure DeploymentLogs where
  deploymentId : String
  entries : List LogEntry

end DeploymentGateway
