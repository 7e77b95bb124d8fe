import DeploymentGateway.Operations
import DeploymentGateway.Release.Object
/-!
Releases as deployments. The id of a deployment is the name of its release, which is looked for in
all namespaces; a name that is used in two of them is refused rather than guessed.
-/

set_option autoImplicit false

namespace DeploymentGateway.Release.OnManager

open Cluster Rules

/-- What the back end can do. -/
def capabilities : List Capability :=
  [.deploymentLifecycle, .rollback, .scaling, .healthChecks]

/-- A package named by a caller; the empty text names none. -/
def namedPackage (packageId : Option String) : Option String :=
  packageId.filter fun s => !s.isEmpty

/-- The namespace of the one release with a name. -/
def locate (operation id : String) : Program String := do
  .ofOutcome (checkName "id" id)
  .connect .releases
  let listed ← .expect (← .releaseList none none) fun error =>
    .failed backend operation id (.release error)
  match (listed.filter fun r => r.name == id).map fun r => r.namespace with
  | [] => .fail (.deploymentNotFound id)
  | [home] => return home
  | homes => .fail (.invalid "id"
      ("release " ++ id ++ " exists in namespaces " ++ Text.joinWith ", " homes))

/-- The last revision of the release with a name. -/
def current (operation id : String) : Program ReleaseRevision := do
  let home ← locate operation id
  .connect .releases
  .expect (← .releaseStatus home id) (releaseFailure operation id)

/-- The last revisions of all releases. -/
def installed : Program (List ReleaseRevision) := do
  .connect .releases
  .expect (← .releaseList none none) fun error => .failed backend "list" "releases" (.release error)

/-- The record of where a release of a name has its chart from, if there is one. -/
def recordedSource (operation home id : String) : Program (Option ChartSource) := do
  .connect .cluster
  match ← .get recordKind home (ChartSource.recordName id) with
  | .ok record => return ChartSource.ofRecord? record
  | .error (.notFound _ _) => return none
  | .error error => .fail (.failed backend operation id (.cluster error))

/-- Write the record of a release, in the place of the one it has. -/
def writeSource (revision : ReleaseRevision) (source : ChartSource) : Program Unit := do
  .connect .cluster
  let record := source.toRecord revision
  let reply ← match ← .get recordKind revision.namespace (ChartSource.recordName revision.name) with
    | .ok existing =>
      let version := existing.stringAt ["metadata", "resourceVersion"]
      .update recordKind revision.namespace
        (record.set (.string version) ["metadata", "resourceVersion"])
    | .error (.notFound _ _) => .create recordKind revision.namespace record
    | .error error => pure (.error error)
  let _ ← .expect reply fun error =>
    .failed backend "record chart source" revision.name (.cluster error)

/-- Write the record of a release that is already in place. A failure to do so is not reported. -/
def remember (revision : ReleaseRevision) (source : ChartSource) : Program Unit := do
  let _ ← (writeSource revision source).attempt

/-- Remove the record of a release that is already gone. A failure to do so is not reported. -/
def forgetSource (home id : String) : Program Unit := do
  match ← (Program.connect .cluster).attempt with
  | .ok () =>
    let _ ← .delete recordKind home (ChartSource.recordName id)
  | .error _ => return

section

variable (now : Time.Instant)

/-- The source and the version of the chart that a package id stands for, from the record of a
release made from it. -/
def chartOf (package : String) : Program (ChartSource × String) := do
  .connect .cluster
  let records ← .expect (← .list recordKind none (some (packageLabel ++ "=" ++ package)))
    fun error => .failed backend "resolve package" package (.cluster error)
  let sources := records.filterMap fun record =>
    (ChartSource.ofRecord? record).map fun source => (source, record.stringAt ["data", "version"])
  match sources with
  | found :: _ => return found
  | [] =>
    if (← installed).any fun revision => packageId revision == package then
      .fail (.invalid "extensions.chart"
        ("chart reference of package " ++ package ++
          " is unknown; pass extensions.chart and extensions.repo"))
    else .fail (.packageNotFound package)

/-- Make a further revision of a release and record its chart. -/
def upgrade (operation : String) (request : UpgradeRequest) (source : ChartSource) :
    Program Deployment := do
  .connect .releases
  let upgraded ← .expect (← .upgrade request) (releaseFailure operation request.name)
  remember upgraded source
  return toDeployment now upgraded

def listPackages (filter : Filter) : Program (List Package) := do
  .checkpoint
  return Listing.finishPackages ((← installed).map (toPackage now)) filter

def getPackage (id : String) : Program Package := do
  .checkpoint
  match ((← installed).map (toPackage now)).find? fun p => p.id == id with
  | some p => return p
  | none => .fail (.packageNotFound id)

def uploadPackage (upload : PackageUpload) : Program Package := do
  .checkpoint
  .ofOutcome (checkName "name" upload.name)
  .fail (.unsupported backend "upload package"
    ("charts are pulled from their repository; " ++
      "pass chart, version and repo when creating a deployment"))

def deletePackage (_ : String) : Program Unit := do
  .checkpoint
  .fail (.unsupported backend "delete package"
    "charts live in their repository; uninstall the releases using the chart instead")

def listDeployments (filter : Filter) : Program (List Deployment) := do
  .checkpoint
  let home := filter.namespace.filter fun s => !s.isEmpty
  .connect .releases
  let listed ← .expect (← .releaseList home (Listing.labelSelector filter.labels)) fun error =>
    .failed backend "list" "releases" (.release error)
  return Listing.finishDeployments (listed.map (toDeployment now)) filter true

def getDeployment (id : String) : Program Deployment := do
  .checkpoint
  return toDeployment now (← current "get" id)

/-- The source and version of the chart for a new release: the chart that the request names, or else
the one that its package id stands for. -/
def requestedSource (request : DeploymentRequest) (version repo : Option String) :
    Program (ChartSource × Option String) := do
  let chart ← .ofOutcome (optionalText request.extensions "chart")
  match chart, namedPackage request.packageId with
  | none, some package =>
    let (source, recorded) ← chartOf package
    return (source.withRepo repo, some (version.getD recorded))
  | _, _ =>
    let reference ← .ofOutcome (requiredText request.extensions "chart")
    return (⟨reference, repo⟩, version)

def createDeployment (request : DeploymentRequest) : Program Deployment := do
  .checkpoint
  .ofOutcome (checkName "name" request.name)
  .ofOutcome (checkName "namespace" request.namespace)
  let version ← .ofOutcome (optionalText request.extensions "version")
  let repo ← .ofOutcome (optionalText request.extensions "repo")
  let (source, version) ← requestedSource request version repo
  .connect .releases
  let reply ← .install
    { name := request.name
      «namespace» := request.namespace
      chart := source.reference
      version
      repo := source.repo
      values := request.values
      createNamespace := true }
  let revision ← .expect reply fun error => .failed backend "install" request.name (.release error)
  remember revision source
  return toDeployment now revision

/-- The source and version of the chart for an update: the chart that the update names, or the one its
package id stands for, or the recorded one in the version that runs. -/
def updatedSource (revision : ReleaseRevision) (id : String) (update : DeploymentUpdate)
    (chart version repo : Option String) : Program (ChartSource × Option String) := do
  match chart, namedPackage update.packageId with
  | some chart, _ => return (⟨chart, repo⟩, version)
  | none, some package =>
    let (source, recorded) ← chartOf package
    return (source.withRepo repo, some (version.getD recorded))
  | none, none =>
    match ← recordedSource "update" revision.namespace id with
    | some source => return (source.withRepo repo, some (version.getD revision.chartVersion))
    | none => .fail (.invalid "extensions.chart"
        ("chart reference of release " ++ id ++
          " is unknown; pass extensions.chart and extensions.repo"))

def updateDeployment (id : String) (update : DeploymentUpdate) : Program Deployment := do
  .checkpoint
  let chart ← .ofOutcome (optionalText update.extensions "chart")
  let version ← .ofOutcome (optionalText update.extensions "version")
  let repo ← .ofOutcome (optionalText update.extensions "repo")
  let revision ← current "update" id
  let (source, version) ← updatedSource revision id update chart version repo
  upgrade now "update"
    { name := revision.name
      «namespace» := revision.namespace
      chart := source.reference
      version
      repo := source.repo
      values := update.values
      reuseValues := true } source

def deleteDeployment (id : String) : Program Unit := do
  .checkpoint
  let home ← locate "delete" id
  .connect .releases
  .expect (← .uninstall home id) (releaseFailure "delete" id)
  forgetSource home id

def scaleDeployment (id : String) (replicas : Int32) : Program Deployment := do
  .checkpoint
  .ofOutcome (checkName "id" id)
  .ofOutcome (checkReplicas replicas)
  let revision ← current "scale" id
  match ← recordedSource "scale" revision.namespace id with
  | none => .fail (.unsupported backend "scale"
      ("chart reference of release " ++ id ++
        " is unknown; update it with extensions.chart and extensions.repo first"))
  | some source =>
    upgrade now "scale"
      { name := revision.name
        «namespace» := revision.namespace
        chart := source.reference
        version := some revision.chartVersion
        repo := source.repo
        values := SortedMap.empty.insert replicaValue (.ofInt replicas.toInt)
        reuseValues := true } source

/-- Return a release to the revision at a position of its history, and record its chart again. The
record is an aid: a failure to renew it does not undo the rollback. -/
def rollbackDeployment (id : String) (revision : Int64) : Program Deployment := do
  .checkpoint
  .ofOutcome (checkName "id" id)
  .ofOutcome (checkRevision revision)
  let home ← locate "rollback" id
  .connect .releases
  let history ← .expect (← .releaseHistory home id) (releaseFailure "rollback" id)
  let index ← .ofOutcome (Listing.historyIndex id revision history.length)
  let target := match history[index]? with
    | some entry => entry.revision
    | none => 0
  .expect (← .rollback home id target) (releaseFailure "rollback" id)
  let restored ← .expect (← .releaseStatus home id) (releaseFailure "rollback" id)
  match ← (recordedSource "rollback" home id).attempt with
  | .ok (some source) => remember restored source
  | _ => pure ()
  return toDeployment now restored

def deploymentStatus (id : String) : Program StatusDetail := do
  .checkpoint
  return toStatus now id (← current "status" id)

def deploymentHistory (id : String) : Program History := do
  .checkpoint
  let home ← locate "history" id
  .connect .releases
  let history ← .expect (← .releaseHistory home id) (releaseFailure "history" id)
  return toHistory now id history

def deploymentLogs (id : String) (options : LogOptions) : Program DeploymentLogs := do
  .checkpoint
  .ofOutcome (checkLogOptions options)
  let home ← locate "logs" id
  .connect .cluster
  let logs ← .expect (← .podLogs home (instanceLabel ++ "=" ++ id) options)
    (deploymentFailure backend "logs" id)
  return Listing.logsOf id logs

def health : Program Unit := do
  .checkpoint
  .connect .releases
  let _ ← .expect (← .releaseVersion) fun error =>
    .failed backend "health" "helm" (.release error)

/-- All operations on releases. -/
def operations : Operations where
  listPackages := listPackages now
  getPackage := getPackage now
  uploadPackage := uploadPackage
  deletePackage := deletePackage
  listDeployments := listDeployments now
  getDeployment := getDeployment now
  createDeployment := createDeployment now
  updateDeployment := updateDeployment now
  deleteDeployment := deleteDeployment
  scaleDeployment := scaleDeployment now
  rollbackDeployment := rollbackDeployment now
  deploymentStatus := deploymentStatus now
  deploymentHistory := deploymentHistory now
  deploymentLogs := deploymentLogs
  health := health

end

end DeploymentGateway.Release.OnManager
