import DeploymentGateway.Cluster.Object
import DeploymentGateway.Health.Verdict
/-!
The verdict on an application from its health, its synchronization and the operation on it.
-/

set_option autoImplicit false

namespace DeploymentGateway.Health.Application

open Text

/-- The signals of an application. -/
structure Signals where
  health : Option String
  healthMessage : Option String
  sync : Option String
  operationPhase : Option String
  operationMessage : Option String
  deleting : Bool

/-- The signals that an application object carries. -/
def signalsOf (app : Json) : Signals where
  health := app.string?At ["status", "health", "status"]
  healthMessage := app.string?At ["status", "health", "message"]
  sync := app.string?At ["status", "sync", "status"]
  operationPhase := app.string?At ["status", "operationState", "phase"]
  operationMessage := app.string?At ["status", "operationState", "message"]
  deleting := Cluster.isDeleting app

/-- A signal in small letters and without blanks around it. -/
def plain (signal : Option String) : String :=
  lowercase (trim (signal.getD ""))

/-- The verdict of health and synchronization alone. An empty health is one not reported yet. -/
def settled (signals : Signals) : Verdict :=
  let sync := plain signals.sync
  let health := plain signals.health
  let native := signals.healthMessage.getD ""
  let outOfSync := sync == "outofsync"
  if health == "healthy" then
    if sync == "synced" then
      ⟨.deployed, 100, messageOr native "application is healthy and synced"⟩
    else ⟨.deploying, 75, "application is healthy but not yet synced"⟩
  else if health == "progressing" then
    ⟨.deploying, 50, messageOr native "application is progressing"⟩
  else if health == "degraded" then ⟨.failed, 0, messageOr native "application is degraded"⟩
  else if health == "missing" then
    ⟨.failed, 0, messageOr native "application resources are missing"⟩
  else if health == "suspended" then
    ⟨.pending, 10, messageOr native "application is suspended"⟩
  else if health.isEmpty then
    if outOfSync then ⟨.deploying, 25, "waiting for sync"⟩
    else ⟨.pending, 0, "waiting for health assessment"⟩
  else if outOfSync then ⟨.deploying, 25, "health unknown, sync pending"⟩
  else ⟨.failed, 0, messageOr native ("health status " ++ health)⟩

/-- The verdict on an application. A running operation makes it deploying unless it has failed, and
a failed operation makes it failed where it would be deploying. -/
def evaluate (signals : Signals) : Verdict :=
  if signals.deleting then .deleting
  else
    let verdict := settled signals
    let phase := lowercase (signals.operationPhase.getD "")
    let message := signals.operationMessage.getD ""
    if phase == "running" || phase == "terminating" then
      if verdict.status = .failed then verdict
      else
        ⟨.deploying, max 50 (min 90 verdict.progress), messageOr message "sync operation running"⟩
    else if phase == "failed" || phase == "error" then
      if verdict.status = .deploying then
        ⟨.failed, 0, messageOr message "sync operation failed"⟩
      else verdict
    else verdict

end DeploymentGateway.Health.Application
