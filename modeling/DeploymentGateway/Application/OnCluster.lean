import DeploymentGateway.Application.Object
import DeploymentGateway.Operations
/-!
Applications as objects of the cluster.
-/

set_option autoImplicit false

namespace DeploymentGateway.Application.OnCluster

open Cluster Rules

/-- The name of the back end in messages. -/
def backend : String := "argocd"

/-- What the back end can do. -/
def capabilities : List Capability :=
  [.deploymentLifecycle, .rollback, .scaling, .gitOps, .healthChecks]

/-- Packages are not brought to this back end. -/
def uploadUnsupported (backend : String) : Failure :=
  .unsupported backend "upload package"
    ("packages are the Git repositories applications reference; " ++
      "create a deployment with extensions.repoURL")

/-- Packages are not removed from this back end. -/
def deleteUnsupported (backend : String) : Failure :=
  .unsupported backend "delete package"
    "packages are derived from live applications; delete the deployments that reference it"

section

/- Application objects live in the namespace `home`. -/
variable (home : String) (now : Time.Instant)

/-- Read an application. -/
def application (operation id : String) : Program Json := do
  .ofOutcome (checkName "id" id)
  .connect .cluster
  .expect (← .get kind home id) (deploymentFailure backend operation id)

/-- Write an application back. -/
def write (operation : String) (app : Json) : Program Deployment := do
  .connect .cluster
  let updated ← .expect (← .update kind home app) (deploymentFailure backend operation (nameOf app))
  return toDeployment now updated

/-- The applications that a selector matches. -/
def applications (selector : Option String) : Program (List Json) := do
  .connect .cluster
  .expect (← .list kind (some home) selector) fun error => .failed backend "list" home (.cluster error)

def listPackages (filter : Filter) : Program (List Package) := do
  .checkpoint
  let apps ← applications home none
  return Listing.finishPackages (apps.filterMap (toPackage now)) filter

def getPackage (id : String) : Program Package := do
  .checkpoint
  let apps ← applications home none
  match (apps.filterMap (toPackage now)).find? fun p => p.id == id with
  | some p => return p
  | none => .fail (.packageNotFound id)

def uploadPackage (_ : PackageUpload) : Program Package := do
  .checkpoint
  .fail (uploadUnsupported backend)

def deletePackage (_ : String) : Program Unit := do
  .checkpoint
  .fail (deleteUnsupported backend)

def listDeployments (filter : Filter) : Program (List Deployment) := do
  .checkpoint
  let apps ← applications home (Listing.labelSelector filter.labels)
  return Listing.finishDeployments (apps.map (toDeployment now)) filter true

def getDeployment (id : String) : Program Deployment := do
  .checkpoint
  return toDeployment now (← application home "get" id)

def createDeployment (request : DeploymentRequest) : Program Deployment := do
  .checkpoint
  let app ← .ofOutcome (build home request)
  .connect .cluster
  let created ← .expect (← .create kind home app) fun error =>
    .failed backend "create" request.name (.cluster error)
  return toDeployment now created

def updateDeployment (id : String) (update : DeploymentUpdate) : Program Deployment := do
  .checkpoint
  .ofOutcome (checkUpdate update)
  let app ← application home "update" id
  write home now "update" (applyUpdate app update)

def deleteDeployment (id : String) : Program Unit := do
  .checkpoint
  .ofOutcome (checkName "id" id)
  .connect .cluster
  .expect (← .delete kind home id) (deploymentFailure backend "delete" id)

def scaleDeployment (id : String) (replicas : Int32) : Program Deployment := do
  .checkpoint
  .ofOutcome (checkName "id" id)
  .ofOutcome (checkReplicas replicas)
  let app ← application home "scale" id
  write home now "scale" (← .ofOutcome (setReplicas app replicas))

/-- The application pinned to the revision of an entry of its history. -/
def pinned (app : Json) (id : String) (revision : Int64) : Outcome Json := do
  let history := app.arrayAt ["status", "history"]
  let index ← Listing.historyIndex id revision history.length
  let target := (history.getD index .null).stringAt ["revision"]
  if target.isEmpty then
    throw (.malformed backend "rollback" id
      ("history entry " ++ Text.signedDecimal revision.toInt ++ " carries no source revision"))
  let app := app.set (.string target) ["spec", "source", "targetRevision"]
  return app.set (.string "hard") ["metadata", "annotations", refreshAnnotation]

def rollbackDeployment (id : String) (revision : Int64) : Program Deployment := do
  .checkpoint
  .ofOutcome (checkName "id" id)
  .ofOutcome (checkRevision revision)
  let app ← application home "rollback" id
  write home now "rollback" (← .ofOutcome (pinned app id revision))

def deploymentStatus (id : String) : Program StatusDetail := do
  .checkpoint
  return toStatus now (← application home "status" id)

def deploymentHistory (id : String) : Program History := do
  .checkpoint
  return toHistory now (← application home "history" id)

def deploymentLogs (id : String) (options : LogOptions) : Program DeploymentLogs := do
  .checkpoint
  .ofOutcome (checkLogOptions options)
  let app ← application home "logs" id
  let target := app.stringAt ["spec", "destination", "namespace"]
  .connect .cluster
  let logs ← .expect (← .podLogs target (instanceLabel ++ "=" ++ id) options)
    (deploymentFailure backend "logs" id)
  return Listing.logsOf id logs

def health : Program Unit := do
  .checkpoint
  .connect .cluster
  .expect (← .ping) fun error => .failed backend "health" "cluster" (.cluster error)

/-- All operations on applications in the cluster. -/
def operations : Operations where
  listPackages := listPackages home now
  getPackage := getPackage home now
  uploadPackage := uploadPackage
  deletePackage := deletePackage
  listDeployments := listDeployments home now
  getDeployment := getDeployment home now
  createDeployment := createDeployment home now
  updateDeployment := updateDeployment home now
  deleteDeployment := deleteDeployment home
  scaleDeployment := scaleDeployment home now
  rollbackDeployment := rollbackDeployment home now
  deploymentStatus := deploymentStatus home now
  deploymentHistory := deploymentHistory home now
  deploymentLogs := deploymentLogs home
  health := health

end

end DeploymentGateway.Application.OnCluster
