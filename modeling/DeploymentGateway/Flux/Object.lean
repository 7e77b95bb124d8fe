import DeploymentGateway.Health.Reconciliation
import DeploymentGateway.Health.Release
import DeploymentGateway.Listing
import DeploymentGateway.Model.Wire
import DeploymentGateway.PackageId
import DeploymentGateway.Rules
/-!
Kustomizations and helm releases as deployments. The id of such a deployment has its kind in front of
its name, separated by a colon; a bare name means a kustomization, or else a helm release.
-/

set_option autoImplicit false

namespace DeploymentGateway.Flux

open Cluster

/-- The name of the back end in messages. -/
def backend : String := "flux"

/-- The annotation that asks for a reconciliation. -/
def requestedAt : Json.Path :=
  ["metadata", "annotations", "reconcile.fluxcd.io/requestedAt"]

/-- The label on what a kustomization applied, with its name. -/
def kustomizationLabel : String := "kustomize.toolkit.fluxcd.io/name"

/-- The label on the pods of a release, with its name. -/
def instanceLabel : String := "app.kubernetes.io/instance"

/-- The label of a repository that was made together with a kustomization, with the name of that. -/
def ownerLabel : String := "wide-deploy.io/owned-by"

/-- The kinds of deployments. -/
inductive FluxKind where
  | kustomization
  | helmRelease
  deriving DecidableEq

def kustomizationKind : ResourceKind :=
  ⟨"kustomize.toolkit.fluxcd.io", "v1", "Kustomization", "kustomizations", true⟩

def helmReleaseKind : ResourceKind :=
  ⟨"helm.toolkit.fluxcd.io", "v2", "HelmRelease", "helmreleases", true⟩

def gitRepositoryKind : ResourceKind :=
  ⟨"source.toolkit.fluxcd.io", "v1", "GitRepository", "gitrepositories", true⟩

def helmRepositoryKind : ResourceKind :=
  ⟨"source.toolkit.fluxcd.io", "v1", "HelmRepository", "helmrepositories", true⟩

namespace FluxKind

/-- The kinds in the order in which a bare name is looked up. -/
def all : List FluxKind :=
  [kustomization, helmRelease]

/-- The word for a kind in ids. -/
def word : FluxKind → String
  | kustomization => "kustomization"
  | helmRelease => "helmrelease"

/-- The kind of the objects. -/
def resource : FluxKind → ResourceKind
  | kustomization => kustomizationKind
  | helmRelease => helmReleaseKind

/-- The name of a kind in messages. -/
def title (kind : FluxKind) : String :=
  kind.resource.kind

/-- The kind that a word stands for, in any case. -/
def ofWord? (word : String) : Option FluxKind :=
  all.find? fun kind => kind.word == Text.lowercase word

end FluxKind

/-- The kind, where one is given, and the name in an id. -/
def parseId (id : String) : Outcome (Option FluxKind × String) := do
  let (kind, name) ← match Text.cutFirst? ':' id with
    | some (word, name) =>
      match FluxKind.ofWord? word with
      | some kind => pure (some kind, name)
      | none => .error (.invalid "id" ("unknown kind prefix " ++ Text.quoted word ++
          ", expected kustomization or helmrelease"))
    | none => pure (none, id)
  Rules.checkName "id" name
  return (kind, name)

/-- The id of a deployment. -/
def deploymentId (kind : FluxKind) (name : String) : String :=
  kind.word ++ ":" ++ name

/-- The namespace that a deployment is applied to: its own unless it says otherwise. -/
def targetNamespace (object : Json) : String :=
  let target := object.stringAt ["spec", "targetNamespace"]
  if target.isEmpty then namespaceOf object else target

/-- A reference to the source of a deployment. -/
structure SourceRef where
  kind : String
  «namespace» : String
  name : String

/-- Where a kind of deployment has its source reference. -/
def FluxKind.sourcePath : FluxKind → Json.Path
  | kustomization => ["spec", "sourceRef"]
  | helmRelease => ["spec", "chart", "spec", "sourceRef"]

/-- The source of a deployment. Its namespace is that of the deployment unless it says otherwise. -/
def sourceRef (kind : FluxKind) (object : Json) : SourceRef :=
  let field (name : String) : String := object.stringAt (kind.sourcePath ++ [name])
  { kind := field "kind"
    «namespace» :=
      if (field "namespace").isEmpty then namespaceOf object else field "namespace"
    name := field "name" }

/-- Reconciliation is suspended. -/
def isSuspended (object : Json) : Bool :=
  (object.boolAt ["spec", "suspend"]).getD false

/-- The verdict on a deployment. -/
def verdict (object : Json) : Health.Verdict :=
  Health.Reconciliation.evaluate (conditionsOf object) (isSuspended object) (isDeleting object)

/-- The package that a deployment is made from. -/
def packageOf (now : Time.Instant) (kind : FluxKind) (object : Json) : Package :=
  let source := sourceRef kind object
  let place := source.kind ++ "/" ++ source.namespace ++ "/" ++ source.name
  let (type, locator, version, locatorName) := match kind with
    | .kustomization =>
      (PackageType.gitRepository, object.stringAt ["spec", "path"],
        (object.string?At ["status", "lastAppliedRevision"]).getD "latest", "path")
    | .helmRelease =>
      (PackageType.helmChart, object.stringAt ["spec", "chart", "spec", "chart"],
        (object.string?At ["spec", "chart", "spec", "version"]).getD "*", "chart")
  { id := PackageId.derive type place locator
    name := match kind with
      | .kustomization => source.name
      | .helmRelease => locator
    version
    type
    description := source.kind ++ " " ++ source.namespace ++ "/" ++ source.name
    uploadedAt := (createdAt object).getD now
    extensions := .ofList [
      ("sourceKind", .string source.kind), ("sourceNamespace", .string source.namespace),
      ("sourceName", .string source.name), (locatorName, .string locator)] }

/-- The extensions that show the state of a deployment, with where they stand. -/
def FluxKind.fields : FluxKind → List (String × Json.Path)
  | kustomization => [
    ("path", ["spec", "path"]),
    ("lastAppliedRevision", ["status", "lastAppliedRevision"]),
    ("lastAttemptedRevision", ["status", "lastAttemptedRevision"])]
  | helmRelease => [
    ("chart", ["spec", "chart", "spec", "chart"]),
    ("chartVersion", ["spec", "chart", "spec", "version"]),
    ("releaseName", ["spec", "releaseName"]),
    ("lastAttemptedRevision", ["status", "lastAttemptedRevision"])]

/-- Where a kind of deployment has its count of revisions. -/
def FluxKind.versionPath : FluxKind → Json.Path
  | kustomization => ["status", "observedGeneration"]
  | helmRelease => ["status", "history", "0", "version"]

/-- The deployment that an object is. -/
def toDeployment (now : Time.Instant) (kind : FluxKind) (object : Json) : Deployment :=
  let verdict := verdict object
  let created := (createdAt object).getD now
  let source := sourceRef kind object
  let version := (object.intAt kind.versionPath).or (object.intAt ["metadata", "generation"])
  let described := kind.fields.filterMap fun (name, path) =>
    (object.string?At path).map fun s => (name, Json.string s)
  { id := deploymentId kind (nameOf object)
    name := nameOf object
    packageId := (packageOf now kind object).id
    «namespace» := targetNamespace object
    status := verdict.status
    version := Int64.ofInt (version.getD 0)
    description := verdict.message
    createdAt := created
    updatedAt := (lastTransition (conditionsOf object)).getD created
    labels := labelsOf object
    extensions := .ofList ([
      ("kind", .string kind.title), ("sourceKind", .string source.kind),
      ("sourceName", .string source.name), ("suspended", .bool (isSuspended object))] ++
      described) }

/-- The status of a deployment in detail. -/
def toStatus (now : Time.Instant) (kind : FluxKind) (object : Json) : StatusDetail :=
  let verdict := verdict object
  let conditions := conditionsOf object
  let attempted := match object.string?At ["status", "lastAttemptedRevision"] with
    | some revision => [("lastAttemptedRevision", Json.string revision)]
    | none => []
  { id := deploymentId kind (nameOf object)
    status := verdict.status
    message := verdict.message
    progress := verdict.progress
    conditions
    updatedAt := (lastTransition conditions).getD now
    extensions := .ofList (("kind", .string kind.title) :: attempted) }

/-- One snapshot of a release in the history of a helm release. -/
def snapshotRevision (now : Time.Instant) (index : Nat) (snapshot : Json) : Revision :=
  let native := Release.ReleaseStatus.ofWord (snapshot.stringAt ["status"])
  let chartVersion := snapshot.stringAt ["chartVersion"]
  let number := (snapshot.intAt ["version"]).getD 0
  let deployed := (timeAt snapshot ["lastDeployed"]).or (timeAt snapshot ["firstDeployed"])
  { revision := Int64.ofNat index
    version := chartVersion
    deployedAt := deployed.getD now
    status := (Health.Release.evaluate native).status
    description := snapshot.stringAt ["chartName"] ++ " " ++ chartVersion ++
      " as release revision " ++ Text.signedDecimal number }

/-- The revisions of a deployment, oldest first. A helm release lists its snapshots newest first; of
a kustomization only the last applied revision is known. -/
def revisionsOf (now : Time.Instant) (kind : FluxKind) (object : Json) : List Revision :=
  match kind with
  | .helmRelease =>
    (object.arrayAt ["status", "history"]).reverse.zipIdx.map fun (snapshot, index) =>
      snapshotRevision now index snapshot
  | .kustomization =>
    let applied := object.stringAt ["status", "lastAppliedRevision"]
    if applied.isEmpty then []
    else
      let ready := (findCondition (conditionsOf object) "Ready").bind fun c => c.lastTransition
      [{ revision := 0
         version := applied
         deployedAt := (ready.or (createdAt object)).getD now
         status := (verdict object).status
         description := "last applied revision" }]

/-- The history of a deployment. -/
def toHistory (now : Time.Instant) (kind : FluxKind) (object : Json) : History :=
  ⟨deploymentId kind (nameOf object), revisionsOf now kind object⟩

/-- The commit in a revision, which names it after a branch and a digest algorithm, or after a
branch alone. -/
def commitOf (revision : String) : Option String :=
  let commit := match Text.cutLast? ':' revision with
    | some (_, commit) => commit
    | none => Text.afterLast '/' revision
  if !commit.isEmpty && commit.toList.all Text.isHexDigit then some commit else none

/-- An object with a request to reconcile it. -/
def requestReconcile (now : Time.Instant) (object : Json) : Json :=
  object.set (.string now.textWithOffset) requestedAt

/-- The values of a request as the substitutions of a kustomization, which are texts: numbers and
truth values are written out, and nothing else is taken. -/
def substitutions (values : Extensions) : Outcome (List (String × Json)) :=
  values.toList.mapM fun (name, value) =>
    match value with
    | .string s => .ok (name, .string s)
    | .number n => .ok (name, .string (Json.renderNumber n))
    | .bool b => .ok (name, .string (if b then "true" else "false"))
    | other => .error (.invalid ("values." ++ name)
        ("kustomizations accept scalar substitutions only, got " ++ other.render))

/-- The metadata of a new object. -/
def newMetadata (name home : String) (labels : Json) : Json :=
  .ofPairs [("name", .string name), ("namespace", .string home), ("labels", labels)]

/-- The kustomization for a request, applied from a repository of a given name. -/
def buildKustomization (home : String) (request : DeploymentRequest) (source : String) :
    Outcome Json := do
  let path := (← Rules.optionalText request.extensions "path").getD "./"
  Rules.checkPath "extensions.path" path
  let interval := (← Rules.optionalText request.extensions "interval").getD "5m"
  let object := Json.ofPairs [
    ("apiVersion", .string kustomizationKind.apiVersion),
    ("kind", .string kustomizationKind.kind),
    ("metadata", newMetadata request.name home request.labels.toJson),
    ("spec", .ofPairs [
      ("interval", .string interval),
      ("path", .string path),
      ("prune", .bool true),
      ("targetNamespace", .string request.namespace),
      ("sourceRef", .ofPairs [("kind", .string gitRepositoryKind.kind), ("name", .string source)])])]
  if request.values.isEmpty then return object
  let substitute ← substitutions request.values
  return object.set (.object substitute) ["spec", "postBuild", "substitute"]

/-- The repository that is made together with a kustomization. -/
def buildRepository (home : String) (request : DeploymentRequest) (url : String) : Outcome Json := do
  let branch := (← Rules.optionalText request.extensions "branch").getD "main"
  return .ofPairs [
    ("apiVersion", .string gitRepositoryKind.apiVersion),
    ("kind", .string gitRepositoryKind.kind),
    ("metadata", newMetadata request.name home (.ofPairs [(ownerLabel, .string request.name)])),
    ("spec", .ofPairs [
      ("url", .string url),
      ("interval", .string "1m"),
      ("ref", .ofPairs [("branch", .string branch)])])]

/-- The helm release for a request. -/
def buildHelmRelease (home : String) (request : DeploymentRequest) : Outcome Json := do
  let extensions := request.extensions
  let chart ← Rules.requiredText extensions "chart"
  let source ← Rules.requiredText extensions "sourceName"
  Rules.checkName "extensions.sourceName" source
  let sourceKind := (← Rules.optionalText extensions "sourceKind").getD helmRepositoryKind.kind
  let version ← Rules.optionalText extensions "version"
  let interval := (← Rules.optionalText extensions "interval").getD "5m"
  let reference := Json.ofPairs [
    ("kind", .string sourceKind), ("name", .string source), ("namespace", .string home)]
  let chartSpec := Json.ofPairs [("chart", .string chart), ("sourceRef", reference)]
  let versioned := match version with
    | some version => chartSpec.set (.string version) ["version"]
    | none => chartSpec
  return .ofPairs [
    ("apiVersion", .string helmReleaseKind.apiVersion),
    ("kind", .string helmReleaseKind.kind),
    ("metadata", newMetadata request.name home request.labels.toJson),
    ("spec", .ofPairs [
      ("interval", .string interval),
      ("releaseName", .string request.name),
      ("targetNamespace", .string request.namespace),
      ("install", .ofPairs [("createNamespace", .bool true)]),
      ("chart", .ofPairs [("spec", versioned)]),
      ("values", request.values.toJson)])]

/-- The source of a new kustomization: the name of its repository, and the repository itself where it
is made together with the kustomization. A named source wins over an address. -/
def newSource (home : String) (request : DeploymentRequest) : Outcome (String × Option Json) := do
  let name ← Rules.optionalText request.extensions "sourceName"
  let url ← Rules.optionalText request.extensions "repoURL"
  match name, url with
  | some name, _ =>
    Rules.checkName "extensions.sourceName" name
    return (name, none)
  | none, some url => return (request.name, some (← buildRepository home request url))
  | none, none =>
    .error (.invalid "extensions.sourceName" "either sourceName or repoURL is required")

/-- The kind of deployment that a request asks for, a kustomization unless it says otherwise. -/
def requestedKind (request : DeploymentRequest) : Outcome FluxKind := do
  match ← Rules.optionalText request.extensions "kind" with
  | none => return .kustomization
  | some word =>
    match FluxKind.ofWord? word with
    | some kind => return kind
    | none => .error (.invalid "extensions.kind"
        (Text.quoted word ++ " is neither Kustomization nor HelmRelease"))

/-- An object with the values, labels and settings of an update. Only a helm release takes a version,
and only a kustomization a path. -/
def applyUpdate (kind : FluxKind) (object : Json) (update : DeploymentUpdate)
    (path version : Option String) : Outcome Json := do
  let valued ← match kind with
    | .helmRelease =>
      let valued := object.setAll ["spec", "values"] update.values.toList
      pure <| match version with
        | some version => valued.set (.string version) ["spec", "chart", "spec", "version"]
        | none => valued
    | .kustomization =>
      let substituted := object.setAll ["spec", "postBuild", "substitute"]
        (← substitutions update.values)
      pure <| match path with
        | some path => substituted.set (.string path) ["spec", "path"]
        | none => substituted
  return valued.setAll ["metadata", "labels"] update.labels.toFields

end DeploymentGateway.Flux
