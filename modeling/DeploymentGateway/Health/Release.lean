import DeploymentGateway.Health.Verdict
import DeploymentGateway.Release.Basic
/-!
The verdict on a revision of a release.
-/

set_option autoImplicit false

namespace DeploymentGateway.Health.Release

open DeploymentGateway.Release

/-- The verdict on a revision with a native status. -/
def evaluate : ReleaseStatus → Verdict
  | .deployed => ⟨.deployed, 100, "release is deployed"⟩
  | .pendingInstall => ⟨.deploying, 25, "install in progress"⟩
  | .pendingUpgrade => ⟨.deploying, 50, "upgrade in progress"⟩
  | .pendingRollback => ⟨.rollingBack, 50, "rollback in progress"⟩
  | .uninstalling => ⟨.deleting, 50, "uninstall in progress"⟩
  | .uninstalled => ⟨.deleting, 100, "release is uninstalled"⟩
  | .failed => ⟨.failed, 0, "release failed"⟩
  | .superseded => ⟨.failed, 0, "release revision is superseded"⟩
  | .unknown => ⟨.failed, 0, "release status is unknown"⟩

end DeploymentGateway.Health.Release
