import DeploymentGateway.Application.Object
import DeploymentGateway.Application.OnCluster
import DeploymentGateway.Text.Percent
/-!
Applications behind the interface of their application server, for installations that show nothing
else of the cluster.
-/

set_option autoImplicit false

namespace DeploymentGateway.Application.OnServer

open Rules Server

/-- The name of the back end in messages. -/
def backend : String := "argocd-rest"

/-- What the back end can do. -/
def capabilities : List Capability :=
  [.deploymentLifecycle, .rollback, .gitOps, .healthChecks]

/-- The failure of a request about one application. -/
def applicationFailure (operation id : String) (error : ServerError) : Failure :=
  match error with
  | .status 404 _ => .deploymentNotFound id
  | error => .failed backend operation id (.server error)

/-- The path of applications, or of what belongs to one of them. -/
def applicationPath (parts : List String) : String :=
  parts.foldl (fun path part => path ++ "/" ++ part) "/api/v1/applications"

/-- The path of one application. -/
def pathOf (name : String) (rest : List String) : String :=
  applicationPath (Text.Percent.encode name :: rest)

section

/- Application objects live in the namespace `home`. -/
variable (home : String) (now : Time.Instant)

/-- The request for one application. -/
def getRequest (name : String) : Request :=
  ⟨.get, pathOf name [], [("appNamespace", home)], none⟩

/-- The request for the applications that a selector matches. -/
def listRequest (selector : Option String) : Request :=
  let selected := match selector with
    | some selector => [("selector", selector)]
    | none => []
  ⟨.get, applicationPath [], ("appNamespace", home) :: selected, none⟩

/-- The request to make an application. -/
def createRequest (app : Json) : Request :=
  ⟨.post, applicationPath [], [], some app⟩

/-- The request to replace an application. -/
def updateRequest (app : Json) : Request :=
  ⟨.put, pathOf (Cluster.nameOf app) [], [], some app⟩

/-- The request to remove an application with what it deployed. -/
def deleteRequest (name : String) : Request :=
  ⟨.delete, pathOf name [], [("cascade", "true"), ("appNamespace", home)], none⟩

/-- The request to return an application to the entry of its history with an id. -/
def rollbackRequest (name : String) (entry : Int) : Request :=
  ⟨.post, pathOf name ["rollback"], [], some (.ofPairs [
    ("name", .string name), ("appNamespace", .string home), ("id", .ofInt entry),
    ("prune", .bool false)])⟩

/-- The request to synchronize an application now. -/
def syncRequest (name : String) : Request :=
  ⟨.post, pathOf name ["sync"], [], some (.ofPairs [
    ("name", .string name), ("appNamespace", .string home), ("prune", .bool true)])⟩

/-- The request for the version of the server. -/
def versionRequest : Request :=
  ⟨.get, "/api/version", [], none⟩

/-- The applications in the answer to a list request. -/
def listedItems (body : Json) : List Json :=
  body.arrayAt ["items"]

/-- Read an application. -/
def application (operation id : String) : Program Json := do
  .ofOutcome (checkName "id" id)
  .connect .server
  .expect (← .request (getRequest home id)) (applicationFailure operation id)

/-- The applications that a selector matches. -/
def applications (selector : Option String) : Program (List Json) := do
  .connect .server
  let body ← .expect (← .request (listRequest home selector)) fun error =>
    .failed backend "list" "applications" (.server error)
  return listedItems body

def listPackages (filter : Filter) : Program (List Package) := do
  .checkpoint
  let apps ← applications home none
  return Listing.finishPackages (apps.filterMap (toPackage now)) filter

def getPackage (id : String) : Program Package := do
  .checkpoint
  let apps ← applications home none
  match (apps.filterMap (toPackage now)).find? fun p => p.id == id with
  | some p => return p
  | none => .fail (.packageNotFound id)

def uploadPackage (_ : PackageUpload) : Program Package := do
  .checkpoint
  .fail (OnCluster.uploadUnsupported backend)

def deletePackage (_ : String) : Program Unit := do
  .checkpoint
  .fail (OnCluster.deleteUnsupported backend)

def listDeployments (filter : Filter) : Program (List Deployment) := do
  .checkpoint
  let apps ← applications home (Listing.labelSelector filter.labels)
  return Listing.finishDeployments (apps.map (toDeployment now)) filter true

def getDeployment (id : String) : Program Deployment := do
  .checkpoint
  return toDeployment now (← application home "get" id)

def createDeployment (request : DeploymentRequest) : Program Deployment := do
  .checkpoint
  let app ← .ofOutcome (build home request)
  .connect .server
  let created ← .expect (← .request (createRequest app)) fun error =>
    .failed backend "create" request.name (.server error)
  return toDeployment now created

/-- Change an application and ask for a synchronization. Once the change is accepted a failure to
synchronize only delays it, so it is told in an extension of the result. -/
def updateDeployment (id : String) (update : DeploymentUpdate) : Program Deployment := do
  .checkpoint
  .ofOutcome (checkUpdate update)
  let app ← application home "update" id
  .connect .server
  let updated ← .expect (← .request (updateRequest (applyUpdate app update)))
    (applicationFailure "update" id)
  let deployment := toDeployment now updated
  match ← .request (syncRequest home id) with
  | .ok _ => return deployment
  | .error error =>
    let text := error.message?.getD ""
    return { deployment with
      extensions := deployment.extensions.insert "syncError" (.string text) }

def deleteDeployment (id : String) : Program Unit := do
  .checkpoint
  .ofOutcome (checkName "id" id)
  .connect .server
  let _ ← .expect (← .request (deleteRequest home id)) (applicationFailure "delete" id)

def scaleDeployment (id : String) (replicas : Int32) : Program Deployment := do
  .checkpoint
  .ofOutcome (checkName "id" id)
  .ofOutcome (checkReplicas replicas)
  .fail (.unsupported backend "scale"
    "the REST variant cannot patch Helm parameters; use the resource-based argocd adapter")

/-- The id of the entry at a position in the history of an application. -/
def entryId (app : Json) (id : String) (revision : Int64) : Outcome Int := do
  let history := app.arrayAt ["status", "history"]
  let index ← Listing.historyIndex id revision history.length
  match (history.getD index .null).intAt ["id"] with
  | some entry => return entry
  | none => throw (.malformed backend "rollback" id
      ("history entry " ++ Text.signedDecimal revision.toInt ++ " has no id"))

def rollbackDeployment (id : String) (revision : Int64) : Program Deployment := do
  .checkpoint
  .ofOutcome (checkName "id" id)
  .ofOutcome (checkRevision revision)
  let app ← application home "rollback" id
  let entry ← .ofOutcome (entryId app id revision)
  .connect .server
  let _ ← .expect (← .request (rollbackRequest home id entry)) (applicationFailure "rollback" id)
  let restored ← .expect (← .request (getRequest home id)) (applicationFailure "rollback" id)
  return toDeployment now restored

def deploymentStatus (id : String) : Program StatusDetail := do
  .checkpoint
  return toStatus now (← application home "status" id)

def deploymentHistory (id : String) : Program History := do
  .checkpoint
  return toHistory now (← application home "history" id)

def deploymentLogs (id : String) (options : LogOptions) : Program DeploymentLogs := do
  .checkpoint
  .ofOutcome (checkName "id" id)
  .ofOutcome (checkLogOptions options)
  .fail (.unsupported backend "logs"
    "pod logs need cluster access; use the resource-based argocd adapter")

/-- Ask the server at an address for its version. -/
def health (address : String) : Program Unit := do
  .checkpoint
  .connect .server
  let _ ← .expect (← .request versionRequest) fun error =>
    .failed backend "health" address (.server error)

/-- All operations on applications behind the server at an address. -/
def operations (address : String) : Operations where
  listPackages := listPackages home now
  getPackage := getPackage home now
  uploadPackage := uploadPackage
  deletePackage := deletePackage
  listDeployments := listDeployments home now
  getDeployment := getDeployment home now
  createDeployment := createDeployment home now
  updateDeployment := updateDeployment home now
  deleteDeployment := deleteDeployment home
  scaleDeployment := scaleDeployment
  rollbackDeployment := rollbackDeployment home now
  deploymentStatus := deploymentStatus home now
  deploymentHistory := deploymentHistory home now
  deploymentLogs := deploymentLogs
  health := health address

end

end DeploymentGateway.Application.OnServer
