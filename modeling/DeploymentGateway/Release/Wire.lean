import DeploymentGateway.Model.Wire
import DeploymentGateway.Release.Basic
/-!
The wire form of revisions of releases and of the requests that make them.
-/

set_option autoImplicit false

namespace DeploymentGateway.Release

namespace ReleaseRevision

def toJson (revision : ReleaseRevision) : Json :=
  .ofPairs [
    ("name", .string revision.name), ("namespace", .string revision.namespace),
    ("revision", .ofInt revision.revision.toInt), ("chart", .string revision.chart),
    ("chart_version", .string revision.chartVersion),
    ("app_version", .string revision.appVersion), ("status", .string revision.status.word),
    ("first_deployed", .ofOption Time.Instant.toJson revision.firstDeployed),
    ("last_deployed", .ofOption Time.Instant.toJson revision.lastDeployed),
    ("description", .string revision.description), ("config", revision.config.toJson)]

end ReleaseRevision

/-- The fields that both kinds of requests have. -/
def requestFields (name «namespace» chart : String) (version repo : Option String)
    (values : Extensions) : List (String × Json) := [
  ("name", .string name), ("namespace", .string «namespace»), ("chart", .string chart),
  ("version", .ofText? version), ("repo", .ofText? repo), ("values", values.toJson)]

namespace InstallRequest

def toJson (r : InstallRequest) : Json :=
  .ofPairs (("create_namespace", .bool r.createNamespace) ::
    requestFields r.name r.namespace r.chart r.version r.repo r.values)

end InstallRequest

namespace UpgradeRequest

def toJson (r : UpgradeRequest) : Json :=
  .ofPairs (("reuse_values", .bool r.reuseValues) ::
    requestFields r.name r.namespace r.chart r.version r.repo r.values)

end UpgradeRequest

end DeploymentGateway.Release
