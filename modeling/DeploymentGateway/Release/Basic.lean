import DeploymentGateway.Sorted
import DeploymentGateway.Json.Basic
import DeploymentGateway.Model.Deployment
import DeploymentGateway.Text.Blank
import DeploymentGateway.Text.Letters
/-!
Releases of the release manager: their revisions, the requests that make new ones, and failures.
-/

set_option autoImplicit false

namespace DeploymentGateway.Release

/-- The release manager's own status of a revision. -/
inductive ReleaseStatus where
  | unknown
  | deployed
  | uninstalled
  | superseded
  | failed
  | uninstalling
  | pendingInstall
  | pendingUpgrade
  | pendingRollback
  deriving DecidableEq

namespace ReleaseStatus

/-- Every status. -/
def all : List ReleaseStatus :=
  [unknown, deployed, uninstalled, superseded, failed, uninstalling, pendingInstall,
    pendingUpgrade, pendingRollback]

/-- The word for a status. -/
def word : ReleaseStatus → String
  | unknown => "unknown"
  | deployed => "deployed"
  | uninstalled => "uninstalled"
  | superseded => "superseded"
  | failed => "failed"
  | uninstalling => "uninstalling"
  | pendingInstall => "pending-install"
  | pendingUpgrade => "pending-upgrade"
  | pendingRollback => "pending-rollback"

/-- The status that a word stands for, in any case and with blanks around it; every other text is an
unknown status. -/
def ofWord (word : String) : ReleaseStatus :=
  let plain := Text.lowercase (Text.trim word)
  (all.find? fun status => status.word == plain).getD unknown

end ReleaseStatus

/-- One revision of a release. -/
structure ReleaseRevision where
  name : String
  «namespace» : String
  revision : Int64
  chart : String
  chartVersion : String
  appVersion : String
  status : ReleaseStatus
  firstDeployed : Option Time.Instant
  lastDeployed : Option Time.Instant
  description : String
  /-- The values that users set in this revision. -/
  config : Extensions

/-- A request for a new release. -/
structure InstallRequest where
  name : String
  «namespace» : String
  chart : String
  version : Option String
  repo : Option String
  values : Extensions
  createNamespace : Bool

/-- A request for a further revision of a release. -/
structure UpgradeRequest where
  name : String
  «namespace» : String
  chart : String
  version : Option String
  repo : Option String
  values : Extensions
  reuseValues : Bool

/-- Why the release manager did not do what it was asked: no such release, a command that failed, a
program that could not be run, or output that is no JSON or not the expected one. -/
inductive ReleaseError where
  | notFound (what : String)
  | commandFailed (command stderr : String)
  | unavailable (reason : String)
  | undecodable (reason : String)
  | unexpected (message : String)
  deriving DecidableEq

/-- The text of a failure. -/
def ReleaseError.message : ReleaseError → String
  | .notFound what => "release not found: " ++ what
  | .commandFailed command stderr => "helm " ++ command ++ " failed: " ++ stderr
  | .unavailable reason => "could not run helm: " ++ reason
  | .undecodable reason => "could not decode helm output: " ++ reason
  | .unexpected message => "unexpected helm output: " ++ message

end DeploymentGateway.Release
