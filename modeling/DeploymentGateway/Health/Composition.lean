import DeploymentGateway.Cluster.Object
import DeploymentGateway.Health.Verdict
/-!
The verdict on a composite resource or a package bundle, from its conditions. A condition that is
not there means that the controller is still at work.
-/

set_option autoImplicit false

namespace DeploymentGateway.Health.Composition

open Cluster Text

/-- The message of the first condition of a type, if it has the given status: its own message, or
else its reason. -/
def reported (conditions : List Condition) (type status : String) : Option String :=
  match findCondition conditions type with
  | some condition =>
    if sameIgnoringCase condition.status status then
      some (messageOr condition.message condition.reason)
    else none
  | none => none

/-- The types of conditions that tell of success, in the order they are asked. -/
def decisive : List String :=
  ["Healthy", "Installed", "Ready"]

/-- The verdict on an object with these conditions. -/
def evaluate (conditions : List Condition) (deleting : Bool) : Verdict :=
  if deleting then .deleting
  else if let some message := reported conditions "Healthy" "False" then
    ⟨.failed, 0, messageOr message "package is unhealthy"⟩
  else if let some message := reported conditions "Synced" "False" then
    ⟨.failed, 0, messageOr message "reconcile error"⟩
  else
    let success := decisive.findSome? fun type =>
      (reported conditions type "True").map fun message =>
        messageOr message (type ++ " condition is true")
    match success with
    | some message => ⟨.deployed, 100, message⟩
    | none =>
      if (reported conditions "Synced" "True").isSome then
        ⟨.deploying, 75, "waiting for composed resources to become ready"⟩
      else ⟨.deploying, 25, "waiting for the composition to be applied"⟩

end DeploymentGateway.Health.Composition
