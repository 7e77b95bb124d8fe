import DeploymentGateway.Cluster.Object
import DeploymentGateway.Health.Release
import DeploymentGateway.Listing
import DeploymentGateway.Model.Wire
import DeploymentGateway.PackageId
import DeploymentGateway.Rules
/-!
Revisions of releases as deployments and packages, and the records of where their charts come from.
The release manager keeps only the name of a chart, which is not enough to get the chart again. So the
gateway keeps a record next to every release it installs, with the reference of the chart and its
repository.
-/

set_option autoImplicit false

namespace DeploymentGateway.Release

open Cluster

/-- The name of the back end in messages. -/
def backend : String := "helm"

/-- The label that pods and records carry with the name of their release. -/
def instanceLabel : String := "app.kubernetes.io/instance"

/-- The value of a chart that sets the number of replicas. -/
def replicaValue : String := "replicaCount"

/-- The label of a record with the id of the package that the release is made from. -/
def packageLabel : String := "wide-deploy.io/chart-package"

/-- The kind of the records. -/
def recordKind : ResourceKind :=
  ⟨"", "v1", "ConfigMap", "configmaps", true⟩

/-- The failure of a call on one release. -/
def releaseFailure (operation id : String) (error : ReleaseError) : Failure :=
  match error with
  | .notFound _ => .deploymentNotFound id
  | error => .failed backend operation id (.release error)

/-- The id of the package that a revision is made from. -/
def packageId (revision : ReleaseRevision) : String :=
  PackageId.derive .helmChart revision.chart revision.chartVersion

/-- The application version as an extension, where there is one. -/
def appVersionField (revision : ReleaseRevision) : List (String × Json) :=
  if revision.appVersion.isEmpty then [] else [("appVersion", .string revision.appVersion)]

/-- What a revision shows besides the canonical fields. -/
def extensionsOf (revision : ReleaseRevision) : Extensions :=
  .ofList ([
    ("chart", .string revision.chart), ("chartVersion", .string revision.chartVersion),
    ("releaseStatus", .string revision.status.word)] ++ appVersionField revision)

/-- The deployment that the last revision of a release is. -/
def toDeployment (now : Time.Instant) (revision : ReleaseRevision) : Deployment :=
  let verdict := Health.Release.evaluate revision.status
  let updated := revision.lastDeployed.getD now
  { id := revision.name
    name := revision.name
    packageId := packageId revision
    «namespace» := revision.namespace
    status := verdict.status
    version := revision.revision
    description := if revision.description.isEmpty then verdict.message else revision.description
    createdAt := revision.firstDeployed.getD updated
    updatedAt := updated
    labels := .empty
    extensions := extensionsOf revision }

/-- The package that a revision is made from. -/
def toPackage (now : Time.Instant) (revision : ReleaseRevision) : Package where
  id := packageId revision
  name := revision.chart
  version := revision.chartVersion
  type := .helmChart
  description := "chart " ++ revision.chart ++ " " ++ revision.chartVersion
  uploadedAt := (revision.firstDeployed.or revision.lastDeployed).getD now
  extensions := .ofList (("chart", .string revision.chart) :: appVersionField revision)

/-- The status of a release in detail, with one condition made from its last revision. -/
def toStatus (now : Time.Instant) (id : String) (revision : ReleaseRevision) : StatusDetail :=
  let verdict := Health.Release.evaluate revision.status
  { id
    status := verdict.status
    message := verdict.message
    progress := verdict.progress
    conditions := [
      { type := "Released"
        status := if verdict.status = .deployed then "True" else "False"
        reason := revision.status.word
        message := revision.description
        lastTransition := revision.lastDeployed }]
    updatedAt := revision.lastDeployed.getD now
    extensions := extensionsOf revision }

/-- The history of a release. -/
def toHistory (now : Time.Instant) (id : String) (history : List ReleaseRevision) : History where
  deploymentId := id
  revisions := history.zipIdx.map fun (revision, index) =>
    { revision := Int64.ofNat index
      version := revision.chartVersion
      deployedAt := revision.lastDeployed.getD now
      status := (Health.Release.evaluate revision.status).status
      description := revision.description }

/-- Where the chart of a release comes from. -/
structure ChartSource where
  reference : String
  repo : Option String

namespace ChartSource

/-- A text at a path, unless it is empty. -/
def nonEmptyAt (record : Json) (path : Json.Path) : Option String :=
  (record.string?At path).filter fun s => !s.isEmpty

/-- The source that a record holds. -/
def ofRecord? (record : Json) : Option ChartSource :=
  (nonEmptyAt record ["data", "chart"]).map fun reference =>
    ⟨reference, nonEmptyAt record ["data", "repo"]⟩

/-- A source with another repository, where one is given. -/
def withRepo (source : ChartSource) (repo : Option String) : ChartSource :=
  { source with repo := repo.or source.repo }

/-- The name of the record of a release. -/
def recordName (release : String) : String :=
  "wide-deploy-chart-" ++ release

/-- The record of where the chart of a revision comes from. -/
def toRecord (source : ChartSource) (revision : ReleaseRevision) : Json :=
  let repo := match source.repo with
    | some repo => [("repo", Json.string repo)]
    | none => []
  .ofPairs [
    ("metadata", .ofPairs [
      ("name", .string (recordName revision.name)),
      ("namespace", .string revision.namespace),
      ("labels", .ofPairs [
        ("app.kubernetes.io/managed-by", .string "wide-deploy-api"),
        (packageLabel, .string (packageId revision)),
        (instanceLabel, .string revision.name)])]),
    ("data", .ofPairs ([
      ("chart", .string source.reference),
      ("version", .string revision.chartVersion)] ++ repo))]

end ChartSource

end DeploymentGateway.Release
