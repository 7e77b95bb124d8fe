import DeploymentGateway.Composite.Object
import DeploymentGateway.Operations
/-!
Composite resources of one kind as deployments, and configuration packages as packages.
-/

set_option autoImplicit false

namespace DeploymentGateway.Composite.OnCluster

open Cluster Rules

/-- The name of the back end in messages. -/
def backend : String := "crossplane"

/-- What the back end can do. -/
def capabilities : List Capability :=
  [.packageManagement, .deploymentLifecycle, .healthChecks]

/-- The failure of an operation that composites do not have. -/
def unsupported (operation message : String) : Failure :=
  .unsupported backend operation message

section

/- Deployments are composites of a kind that belongs to the whole cluster. -/
variable (kind : ResourceKind) (now : Time.Instant)

/-- Read a composite. -/
def composite (operation id : String) : Program Json := do
  .ofOutcome (checkName "id" id)
  .connect .cluster
  .expect (← .get kind "" id) (deploymentFailure backend operation id)

/-- All configuration packages. -/
def configurations : Program (List Json) := do
  .connect .cluster
  .expect (← .list configurationKind none none) fun error =>
    .failed backend "list" "configurations" (.cluster error)

/-- The configuration that is the package with an id. -/
def configurationById (id : String) : Program Json := do
  match (← configurations).find? fun configuration => (toPackage now configuration).id == id with
  | some configuration => return configuration
  | none => .fail (.packageNotFound id)

def listPackages (filter : Filter) : Program (List Package) := do
  .checkpoint
  return Listing.finishPackages ((← configurations).map (toPackage now)) filter

def getPackage (id : String) : Program Package := do
  .checkpoint
  return toPackage now (← configurationById now id)

def uploadPackage (upload : PackageUpload) : Program Package := do
  .checkpoint
  let configuration ← .ofOutcome (buildConfiguration upload)
  .connect .cluster
  let created ← .expect (← .create configurationKind "" configuration) fun error =>
    .failed backend "upload package" upload.name (.cluster error)
  return toPackage now created

def deletePackage (id : String) : Program Unit := do
  .checkpoint
  let configuration ← configurationById now id
  .connect .cluster
  .expect (← .delete configurationKind "" (nameOf configuration))
    (packageFailure backend "delete package" id)

def listDeployments (filter : Filter) : Program (List Deployment) := do
  .checkpoint
  .connect .cluster
  let composites ← .expect (← .list kind none (Listing.labelSelector filter.labels)) fun error =>
    .failed backend "list" kind.plural (.cluster error)
  return Listing.finishDeployments (composites.map (toDeployment now)) filter true

def getDeployment (id : String) : Program Deployment := do
  .checkpoint
  return toDeployment now (← composite kind "get" id)

def createDeployment (request : DeploymentRequest) : Program Deployment := do
  .checkpoint
  let composite ← .ofOutcome (build kind request)
  .connect .cluster
  let created ← .expect (← .create kind "" composite) fun error =>
    .failed backend "create" request.name (.cluster error)
  return toDeployment now created

def updateDeployment (id : String) (update : DeploymentUpdate) : Program Deployment := do
  .checkpoint
  let composition ← .ofOutcome (updatedComposition update)
  let current ← composite kind "update" id
  .connect .cluster
  let updated ← .expect (← .update kind "" (applyUpdate current update composition))
    (deploymentFailure backend "update" id)
  return toDeployment now updated

def deleteDeployment (id : String) : Program Unit := do
  .checkpoint
  .ofOutcome (checkName "id" id)
  .connect .cluster
  .expect (← .delete kind "" id) (deploymentFailure backend "delete" id)

def scaleDeployment (id : String) (replicas : Int32) : Program Deployment := do
  .checkpoint
  .ofOutcome (checkName "id" id)
  .ofOutcome (checkReplicas replicas)
  .fail (unsupported "scale"
    ("composite resources have no replica count; " ++
      "expose one as a composition parameter and update it"))

def rollbackDeployment (id : String) (revision : Int64) : Program Deployment := do
  .checkpoint
  .ofOutcome (checkName "id" id)
  .ofOutcome (checkRevision revision)
  .fail (unsupported "rollback"
    ("composites keep no deployment history; " ++
      "pin an earlier composition revision with an update instead"))

def deploymentStatus (id : String) : Program StatusDetail := do
  .checkpoint
  return toStatus now id (← composite kind "status" id)

def deploymentHistory (id : String) : Program History := do
  .checkpoint
  return toHistory now id (← composite kind "history" id)

def deploymentLogs (id : String) (options : LogOptions) : Program DeploymentLogs := do
  .checkpoint
  .ofOutcome (checkName "id" id)
  .ofOutcome (checkLogOptions options)
  .fail (unsupported "logs"
    "composites run no pods of their own; read the provider logs in crossplane-system")

def health : Program Unit := do
  .checkpoint
  .connect .cluster
  .expect (← .ping) fun error => .failed backend "health" "cluster" (.cluster error)

/-- All operations on composites of a kind. -/
def operations : Operations where
  listPackages := listPackages now
  getPackage := getPackage now
  uploadPackage := uploadPackage now
  deletePackage := deletePackage now
  listDeployments := listDeployments kind now
  getDeployment := getDeployment kind now
  createDeployment := createDeployment kind now
  updateDeployment := updateDeployment kind now
  deleteDeployment := deleteDeployment kind
  scaleDeployment := scaleDeployment
  rollbackDeployment := rollbackDeployment
  deploymentStatus := deploymentStatus kind now
  deploymentHistory := deploymentHistory kind now
  deploymentLogs := deploymentLogs
  health := health

end

end DeploymentGateway.Composite.OnCluster
