import DeploymentGateway.Flux.Object
import DeploymentGateway.Operations
/-!
Kustomizations and helm releases as objects of the cluster.
-/

set_option autoImplicit false

namespace DeploymentGateway.Flux.OnCluster

open Cluster Rules

/-- What the back end can do. -/
def capabilities : List Capability :=
  [.deploymentLifecycle, .rollback, .scaling, .gitOps, .healthChecks]

/-- Kustomizations have no number of replicas. -/
def scaleUnsupported : Failure :=
  .unsupported backend "scale"
    "kustomizations apply plain manifests; change replicas in Git or deploy as a HelmRelease"

section

/- The objects live in the namespace `home`. -/
variable (home : String) (now : Time.Instant)

/-- The first of the kinds that has an object of the name, with that object. -/
def firstOf (operation id name : String) : List FluxKind → Program (FluxKind × Json)
  | [] => .fail (.deploymentNotFound id)
  | kind :: rest => do
    match ← .get kind.resource home name with
    | .ok object => return (kind, object)
    | .error (.notFound _ _) => firstOf operation id name rest
    | .error error => .fail (.failed backend operation id (.cluster error))

/-- Read the object of a deployment. -/
def resolve (operation id : String) : Program (FluxKind × Json) := do
  let (kind, name) ← .ofOutcome (parseId id)
  .connect .cluster
  firstOf home operation id name (match kind with
    | some kind => [kind]
    | none => FluxKind.all)

/-- Write the object of a deployment back. -/
def write (operation : String) (kind : FluxKind) (object : Json) : Program Deployment := do
  .connect .cluster
  let updated ← .expect (← .update kind.resource home object)
    (deploymentFailure backend operation (deploymentId kind (nameOf object)))
  return toDeployment now kind updated

/-- The objects of one kind that a selector matches. -/
def objectsOf (selector : Option String) (kind : FluxKind) :
    Program (List (FluxKind × Json)) := do
  .connect .cluster
  let objects ← .expect (← .list kind.resource (some home) selector) fun error =>
    .failed backend "list" kind.word (.cluster error)
  return objects.map fun object => (kind, object)

/-- The kinds that a filter asks for: one, or both. -/
def wantedKinds (filter : Filter) : Outcome (List FluxKind) :=
  match (filter.extensions.get? "kind").bind Json.string? with
  | none => .ok FluxKind.all
  | some word =>
    match FluxKind.ofWord? word with
    | some kind => .ok [kind]
    | none => .error (.invalid "extensions.kind" ("unknown kind " ++ Text.quoted word))

/-- The objects that a filter asks for by kind and labels. -/
def allObjects (filter : Filter) : Program (List (FluxKind × Json)) := do
  let kinds ← .ofOutcome (wantedKinds filter)
  let objects ← kinds.mapM (objectsOf home (Listing.labelSelector filter.labels))
  return objects.flatten

/-- The addresses of the sources of a kind, by kind, namespace and name. -/
def sourceUrls (kind : ResourceKind) : Program (List (SourceRef × String)) := do
  let sources ← .expect (← .list kind (some home) none) fun error =>
    .failed backend "list" kind.plural (.cluster error)
  return sources.map fun source =>
    (⟨kind.kind, namespaceOf source, nameOf source⟩, source.stringAt ["spec", "url"])

/-- A package with the address of its source, where that is known. Of several sources of one name
the last counts. -/
def withUrl (urls : List (SourceRef × String)) (package : Package) : Package :=
  let part (name : String) : String :=
    ((package.extensions.get? name).bind Json.string?).getD ""
  let source := urls.reverse.find? fun entry =>
    entry.1.kind == part "sourceKind" && entry.1.namespace == part "sourceNamespace" &&
      entry.1.name == part "sourceName"
  match source with
  | some (_, url) => { package with extensions := package.extensions.insert "url" (.string url) }
  | none => package

def listPackages (filter : Filter) : Program (List Package) := do
  .checkpoint
  let objects ← allObjects home .everything
  .connect .cluster
  let gitUrls ← sourceUrls home gitRepositoryKind
  let helmUrls ← sourceUrls home helmRepositoryKind
  let packages := objects.map fun (kind, object) =>
    withUrl (gitUrls ++ helmUrls) (packageOf now kind object)
  return Listing.finishPackages packages filter

def getPackage (id : String) : Program Package := do
  .checkpoint
  match (← listPackages home now .everything).find? fun p => p.id == id with
  | some p => return p
  | none => .fail (.packageNotFound id)

def uploadPackage (_ : PackageUpload) : Program Package := do
  .checkpoint
  .fail (.unsupported backend "upload package"
    ("sources are created with their deployment; " ++
      "pass extensions.repoURL when creating a kustomization"))

def deletePackage (_ : String) : Program Unit := do
  .checkpoint
  .fail (.unsupported backend "delete package"
    "packages are derived from live deployments; delete the deployments that reference it")

def listDeployments (filter : Filter) : Program (List Deployment) := do
  .checkpoint
  let objects ← allObjects home filter
  return Listing.finishDeployments
    (objects.map fun (kind, object) => toDeployment now kind object) filter true

def getDeployment (id : String) : Program Deployment := do
  .checkpoint
  let (kind, object) ← resolve home "get" id
  return toDeployment now kind object

/-- Create a kustomization, and before it the repository it is applied from if the request gives its
address. When the kustomization cannot be created, a repository of the request's own name is
removed again. -/
def createKustomization (request : DeploymentRequest) : Program Deployment := do
  let (source, repository) ← .ofOutcome (newSource home request)
  let kustomization ← .ofOutcome (buildKustomization home request source)
  .connect .cluster
  if let some repository := repository then
    let _ ← .expect (← .create gitRepositoryKind home repository) fun error =>
      .failed backend "create source" request.name (.cluster error)
  match ← .create kustomizationKind home kustomization with
  | .ok created => return toDeployment now .kustomization created
  | .error error =>
    let url ← .ofOutcome (optionalText request.extensions "repoURL")
    if url.isSome && source == request.name then
      let _ ← .delete gitRepositoryKind home source
    .fail (.failed backend "create" request.name (.cluster error))

/-- Create a helm release. -/
def createHelmRelease (request : DeploymentRequest) : Program Deployment := do
  let release ← .ofOutcome (buildHelmRelease home request)
  .connect .cluster
  let created ← .expect (← .create helmReleaseKind home release) fun error =>
    .failed backend "create" request.name (.cluster error)
  return toDeployment now .helmRelease created

def createDeployment (request : DeploymentRequest) : Program Deployment := do
  .checkpoint
  .ofOutcome (checkName "name" request.name)
  .ofOutcome (checkName "namespace" request.namespace)
  match ← .ofOutcome (requestedKind request) with
  | .kustomization => createKustomization home now request
  | .helmRelease => createHelmRelease home now request

def updateDeployment (id : String) (update : DeploymentUpdate) : Program Deployment := do
  .checkpoint
  let _ ← .ofOutcome (parseId id)
  let path ← .ofOutcome (optionalText update.extensions "path")
  if let some path := path then
    .ofOutcome (checkPath "extensions.path" path)
  let version ← .ofOutcome (optionalText update.extensions "version")
  let (kind, object) ← resolve home "update" id
  let changed ← .ofOutcome (applyUpdate kind object update path version)
  write home now "update" kind (requestReconcile now changed)

/-- Remove the repository of a deleted kustomization if it was made together with it. Failures here
leave the repository and are not reported. -/
def removeOwnedSource (name : String) (object : Json) : Program Unit := do
  let source := sourceRef .kustomization object
  if source.kind == gitRepositoryKind.kind then
    match ← .get gitRepositoryKind source.namespace source.name with
    | .ok repository =>
      if (labelsOf repository).get? ownerLabel == some name then
        let _ ← .delete gitRepositoryKind source.namespace source.name
    | .error _ => return

def deleteDeployment (id : String) : Program Unit := do
  .checkpoint
  let (kind, object) ← resolve home "delete" id
  let name := nameOf object
  .connect .cluster
  .expect (← .delete kind.resource home name) (deploymentFailure backend "delete" id)
  if kind == .kustomization then
    removeOwnedSource name object

def scaleDeployment (id : String) (replicas : Int32) : Program Deployment := do
  .checkpoint
  let (kind, _) ← .ofOutcome (parseId id)
  .ofOutcome (checkReplicas replicas)
  if kind == some .kustomization then
    .fail scaleUnsupported
  let (kind, object) ← resolve home "scale" id
  match kind with
  | .kustomization => .fail scaleUnsupported
  | .helmRelease =>
    let scaled := object.set (.ofInt replicas.toInt) ["spec", "values", "replicaCount"]
    write home now "scale" kind (requestReconcile now scaled)

/-- A repository whose reference was replaced, and the reference it had before. -/
structure Pin where
  «namespace» : String
  name : String
  before : Option Json

/-- Pin the repository of a kustomization to the commit of a revision. -/
def pinSource (id : String) (object : Json) (revision : String) : Program Pin := do
  let some commit := commitOf revision
    | .fail (.malformed backend "rollback" id ("no commit in revision " ++ Text.quoted revision))
  let source := sourceRef .kustomization object
  if source.kind != gitRepositoryKind.kind then
    .fail (.unsupported backend "rollback"
      (source.kind ++
        " sources cannot be pinned to a commit; change the source revision instead"))
  let failure (error : ClusterError) : Failure :=
    .failed backend "rollback" source.name (.cluster error)
  .connect .cluster
  let repository ← .expect (← .get gitRepositoryKind source.namespace source.name) failure
  let pinned := repository.set (.string commit) ["spec", "ref", "commit"]
  let _ ← .expect
    (← .update gitRepositoryKind source.namespace (requestReconcile now pinned)) failure
  return ⟨source.namespace, source.name, repository.lookup ["spec", "ref"]⟩

/-- Put back the reference that a pin replaced. -/
def restoreSource (pin : Pin) : Program Unit := do
  let failure (error : ClusterError) : Failure :=
    .failed backend "restore source" pin.name (.cluster error)
  .connect .cluster
  let repository ← .expect (← .get gitRepositoryKind pin.namespace pin.name) failure
  let restored := match pin.before with
    | some reference => repository.set reference ["spec", "ref"]
    | none => (repository.remove ["spec", "ref"]).1
  let _ ← .expect
    (← .update gitRepositoryKind pin.namespace (requestReconcile now restored)) failure

/-- Return a deployment to an earlier revision: a helm release by the version of its chart, a
kustomization by pinning its repository. When the deployment itself cannot be written then, the
repository gets its reference back. -/
def rollbackDeployment (id : String) (revision : Int64) : Program Deployment := do
  .checkpoint
  let _ ← .ofOutcome (parseId id)
  .ofOutcome (checkRevision revision)
  let (kind, object) ← resolve home "rollback" id
  let revisions := revisionsOf now kind object
  let index ← .ofOutcome (Listing.historyIndex id revision revisions.length)
  let version := match revisions[index]? with
    | some entry => entry.version
    | none => ""
  match kind with
  | .helmRelease =>
    let changed := object.set (.string version) ["spec", "chart", "spec", "version"]
    write home now "rollback" kind (requestReconcile now changed)
  | .kustomization =>
    let pin ← pinSource now id object version
    match ← (write home now "rollback" kind (requestReconcile now object)).attempt with
    | .ok deployment => return deployment
    | .error failure =>
      let _ ← (restoreSource now pin).attempt
      .fail failure

def deploymentStatus (id : String) : Program StatusDetail := do
  .checkpoint
  let (kind, object) ← resolve home "status" id
  return toStatus now kind object

def deploymentHistory (id : String) : Program History := do
  .checkpoint
  let (kind, object) ← resolve home "history" id
  return toHistory now kind object

/-- The selector of the pods of a deployment. -/
def podSelector (kind : FluxKind) (object : Json) : String :=
  match kind with
  | .kustomization => kustomizationLabel ++ "=" ++ nameOf object
  | .helmRelease =>
    let release := object.stringAt ["spec", "releaseName"]
    instanceLabel ++ "=" ++ (if release.isEmpty then nameOf object else release)

def deploymentLogs (id : String) (options : LogOptions) : Program DeploymentLogs := do
  .checkpoint
  let _ ← .ofOutcome (parseId id)
  .ofOutcome (checkLogOptions options)
  let (kind, object) ← resolve home "logs" id
  .connect .cluster
  let logs ← .expect (← .podLogs (targetNamespace object) (podSelector kind object) options)
    (deploymentFailure backend "logs" id)
  return Listing.logsOf (deploymentId kind (nameOf object)) logs

def health : Program Unit := do
  .checkpoint
  .connect .cluster
  .expect (← .ping) fun error => .failed backend "health" "cluster" (.cluster error)

/-- All operations on kustomizations and helm releases. -/
def operations : Operations where
  listPackages := listPackages home now
  getPackage := getPackage home now
  uploadPackage := uploadPackage
  deletePackage := deletePackage
  listDeployments := listDeployments home now
  getDeployment := getDeployment home now
  createDeployment := createDeployment home now
  updateDeployment := updateDeployment home now
  deleteDeployment := deleteDeployment home
  scaleDeployment := scaleDeployment home now
  rollbackDeployment := rollbackDeployment home now
  deploymentStatus := deploymentStatus home now
  deploymentHistory := deploymentHistory home now
  deploymentLogs := deploymentLogs home
  health := health

end

end DeploymentGateway.Flux.OnCluster
