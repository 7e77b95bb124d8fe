import DeploymentGateway.Cluster.Object
import DeploymentGateway.Health.Verdict
/-!
The verdict on an object that a controller reconciles, from the condition Ready.
-/

set_option autoImplicit false

namespace DeploymentGateway.Health.Reconciliation

open Cluster Text

/-- Reasons for which an object that is not ready is not done yet, rather than broken. -/
def transientReasons : List String :=
  ["Progressing", "ProgressingWithRetry", "DependencyNotReady", "ArtifactNotFound",
    "ReconciliationInProgress"]

/-- A transient reason, in any case and with blanks around it. -/
def isTransient (reason : String) : Bool :=
  transientReasons.any fun known => sameIgnoringCase known (trim reason)

/-- The verdict on an object with these conditions. -/
def evaluate (conditions : List Condition) (suspended deleting : Bool) : Verdict :=
  if deleting then .deleting
  else if suspended then ⟨.pending, 10, "reconciliation is suspended"⟩
  else
    let reconciling := match findCondition conditions "Reconciling" with
      | some condition => sameIgnoringCase condition.status "true"
      | none => false
    let undecided : Verdict :=
      if reconciling then ⟨.deploying, 40, "reconciliation in progress"⟩
      else ⟨.pending, 10, "waiting for reconciliation"⟩
    match findCondition conditions "Ready" with
    | none => undecided
    | some ready =>
      if sameIgnoringCase ready.status "true" then
        ⟨.deployed, 100, messageOr ready.message "reconciliation succeeded"⟩
      else if sameIgnoringCase ready.status "false" then
        if isTransient ready.reason then
          ⟨.deploying, 50, messageOr ready.message "reconciliation in progress"⟩
        else
          ⟨.failed, 0, messageOr ready.message ("reconciliation failed: " ++ ready.reason)⟩
      else undecided

end DeploymentGateway.Health.Reconciliation
