import DeploymentGateway.Model.Deployment
/-!
What the signals of a back end come to: a canonical status, an estimate of progress and a message.
A signal that a controller has not reported yet means pending, and an explicit unknown means failed,
unless the same signals show a change under way, which means deploying.
-/

set_option autoImplicit false

namespace DeploymentGateway.Health

/-- A judgement on the signals of a back end. The progress is from 0 to 100 and only for display. -/
structure Verdict where
  status : DeploymentStatus
  progress : UInt8
  message : String
  deriving DecidableEq

/-- The verdict on everything that is being deleted. -/
def Verdict.deleting : Verdict :=
  ⟨.deleting, 50, "resource is being deleted"⟩

/-- The fields that show a verdict. -/
def Verdict.toFields (verdict : Verdict) : List (String × Json) := [
  ("status", .string verdict.status.word), ("progress", .ofInt verdict.progress.toNat),
  ("message", .string verdict.message)]

end DeploymentGateway.Health
