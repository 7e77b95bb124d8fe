import DeploymentGateway.Health.Application
import DeploymentGateway.Listing
import DeploymentGateway.Model.Wire
import DeploymentGateway.PackageId
import DeploymentGateway.Rules
/-!
Application objects: how one is made from a request and changed by an update, and what deployment,
package, status and history can be read from it. The objects look the same in the cluster and behind
the application server.
-/

set_option autoImplicit false

namespace DeploymentGateway.Application

open Cluster

/-- The kind of application objects. -/
def kind : ResourceKind :=
  ⟨"argoproj.io", "v1alpha1", "Application", "applications", true⟩

/-- The finalizer that removes what an application deployed together with it. -/
def finalizer : String := "resources-finalizer.argocd.argoproj.io"

/-- The annotation that asks for a refresh. -/
def refreshAnnotation : String := "argocd.argoproj.io/refresh"

/-- The label that pods carry with the name of their application. -/
def instanceLabel : String := "app.kubernetes.io/instance"

/-- The cluster that an application deploys to unless told otherwise. -/
def defaultServer : String := "https://kubernetes.default.svc"

/-- The parameter of a chart that sets the number of replicas. -/
def replicaParameter : String := "replicaCount"

/-- Where an application takes its manifests from. A source renders a chart if it names one or has
settings for one. -/
structure Source where
  repoUrl : String
  path : String
  chart : String
  targetRevision : String
  helm : Bool

namespace Source

/-- The source of an application. -/
def ofApplication (app : Json) : Source :=
  let field (name : String) : String := app.stringAt ["spec", "source", name]
  { repoUrl := field "repoURL"
    path := field "path"
    chart := field "chart"
    targetRevision := field "targetRevision"
    helm := !(field "chart").isEmpty || (app.lookup ["spec", "source", "helm"]).isSome }

/-- The type of package that a source is. -/
def packageType (source : Source) : PackageType :=
  if source.chart.isEmpty then .gitRepository else .helmChart

/-- What names a package within its repository: the chart, or else the path. -/
def locator (source : Source) : String :=
  if source.chart.isEmpty then source.path else source.chart

/-- The id of the package that a source is. -/
def packageId (source : Source) : String :=
  PackageId.derive source.packageType source.repoUrl source.locator

end Source

/-- The extensions that show the state of an application, with where they stand. -/
def statusFields : List (String × Json.Path) := [
  ("health", ["status", "health", "status"]),
  ("sync", ["status", "sync", "status"]),
  ("syncRevision", ["status", "sync", "revision"]),
  ("operationPhase", ["status", "operationState", "phase"]),
  ("project", ["spec", "project"])]

/-- The texts at some paths, by name, as far as they are there. -/
def fieldsAt (object : Json) (fields : List (String × Json.Path)) : List (String × Json) :=
  fields.filterMap fun (name, path) => (object.string?At path).map fun s => (name, .string s)

/-- The deployment that an application is. -/
def toDeployment (now : Time.Instant) (app : Json) : Deployment :=
  let source := Source.ofApplication app
  let verdict := Health.Application.evaluate (Health.Application.signalsOf app)
  let created := (createdAt app).getD now
  let updated := (timeAt app ["status", "reconciledAt"]).or
    (timeAt app ["status", "operationState", "finishedAt"])
  let described := [("repoURL", source.repoUrl), ("path", source.path), ("chart", source.chart),
    ("targetRevision", source.targetRevision)].filter fun field => !field.2.isEmpty
  { id := nameOf app
    name := nameOf app
    packageId := source.packageId
    «namespace» := app.stringAt ["spec", "destination", "namespace"]
    status := verdict.status
    version := Int64.ofNat (app.arrayAt ["status", "history"]).length
    description := verdict.message
    createdAt := created
    updatedAt := updated.getD created
    labels := labelsOf app
    extensions := .ofList <| fieldsAt app statusFields ++
      described.map fun (name, value) => (name, .string value) }

/-- Take an ending off a text as often as it is there. -/
def dropEndings (ending : List Char) (s : List Char) : List Char :=
  if _h : ending ≠ [] ∧ ending.isSuffixOf s then
    dropEndings ending (s.take (s.length - ending.length))
  else s
termination_by s.length
decreasing_by
  obtain ⟨nonempty, suffix⟩ := _h
  have fits : ending.length ≤ s.length := (List.isSuffixOf_iff_suffix.mp suffix).length_le
  have positive : 0 < ending.length := List.length_pos_iff.mpr nonempty
  simp only [List.length_take]
  omega

/-- The name of a repository: the last part of its address, without the usual ending. -/
def repositoryName (url : String) : String :=
  let address := Text.dropEndWhile (· == '/') url.toList
  let last := match Text.splitLast? '/' address with
    | some (_, after) => after
    | none => address
  String.ofList (dropEndings ".git".toList last)

/-- The package that an application is made from, if it says where that is. -/
def toPackage (now : Time.Instant) (app : Json) : Option Package :=
  let source := Source.ofApplication app
  if source.repoUrl.isEmpty then none
  else
    let parts := (Text.piecesAt '/' source.locator).filter fun part => !part.isEmpty
    let place := if source.chart.isEmpty then "path" else "chart"
    some
      { id := source.packageId
        name := parts.getLast?.getD (repositoryName source.repoUrl)
        version := if source.targetRevision.isEmpty then "HEAD" else source.targetRevision
        type := source.packageType
        description := "source of application " ++ nameOf app
        uploadedAt := (createdAt app).getD now
        extensions := .ofList <| ("repoURL", .string source.repoUrl) ::
          (if source.locator.isEmpty then [] else [(place, .string source.locator)]) }

/-- The status of an application in detail. -/
def toStatus (now : Time.Instant) (app : Json) : StatusDetail :=
  let verdict := Health.Application.evaluate (Health.Application.signalsOf app)
  let conditions := conditionsOf app
  let updated := (timeAt app ["status", "reconciledAt"]).or (lastTransition conditions)
  { id := nameOf app
    status := verdict.status
    message := verdict.message
    progress := verdict.progress
    conditions
    updatedAt := updated.getD now
    extensions := .ofList (fieldsAt app statusFields) }

/-- The history of an application: one entry for every synchronization, oldest first. -/
def toHistory (now : Time.Instant) (app : Json) : History :=
  let created := (createdAt app).getD now
  let entries := (app.arrayAt ["status", "history"]).zipIdx
  { deploymentId := nameOf app
    revisions := entries.map fun (entry, index) =>
      let version := entry.stringAt ["revision"]
      let number := (entry.intAt ["id"]).getD index
      { revision := Int64.ofNat index
        version
        deployedAt := (timeAt entry ["deployedAt"]).getD created
        status := .deployed
        description := "sync " ++ Text.signedDecimal number ++ " of revision " ++ version } }

/-- The source part of a new application. -/
def newSource (repoUrl path targetRevision : String) (chart : Option String)
    (values : Extensions) : Json :=
  let base := Json.ofPairs
    [("repoURL", .string repoUrl), ("targetRevision", .string targetRevision)]
  let located := match chart with
    | some chart => base.set (.string chart) ["chart"]
    | none => base.set (.string path) ["path"]
  if chart.isSome || !values.isEmpty then
    located.set values.toJson ["helm", "valuesObject"]
  else located

/-- The application object for a request, if the request keeps the rules. -/
def build (home : String) (request : DeploymentRequest) : Outcome Json := do
  Rules.checkName "name" request.name
  Rules.checkName "namespace" request.namespace
  let extensions := request.extensions
  let repoUrl ← Rules.requiredText extensions "repoURL"
  let path := (← Rules.optionalText extensions "path").getD ""
  Rules.checkPath "extensions.path" path
  let chart ← Rules.optionalText extensions "chart"
  let targetRevision := (← Rules.optionalText extensions "targetRevision").getD "HEAD"
  let project := (← Rules.optionalText extensions "project").getD "default"
  let server := (← Rules.optionalText extensions "destinationServer").getD defaultServer
  let automated := (← Rules.optionalBool extensions "automated").getD true
  let app := Json.ofPairs [
    ("apiVersion", .string kind.apiVersion),
    ("kind", .string kind.kind),
    ("metadata", .ofPairs [
      ("name", .string request.name),
      ("namespace", .string home),
      ("labels", request.labels.toJson),
      ("finalizers", .array [.string finalizer])]),
    ("spec", .ofPairs [
      ("project", .string project),
      ("source", newSource repoUrl path targetRevision chart request.values),
      ("destination", .ofPairs [
        ("server", .string server),
        ("namespace", .string request.namespace)]),
      ("syncPolicy", .ofPairs [
        ("syncOptions", .array [.string "CreateNamespace=true"])])])]
  return if automated then
    app.set (.ofPairs [("prune", .bool true), ("selfHeal", .bool true)])
      ["spec", "syncPolicy", "automated"]
  else app

/-- An update keeps the rules. -/
def checkUpdate (update : DeploymentUpdate) : Outcome Unit := do
  if let some path ← Rules.optionalText update.extensions "path" then
    Rules.checkPath "extensions.path" path
  let _ ← Rules.optionalText update.extensions "repoURL"
  let _ ← Rules.optionalText update.extensions "targetRevision"

/-- The fields of the source that an update may change. -/
def sourceFields : List String :=
  ["repoURL", "path", "targetRevision"]

/-- An application with the values, labels and source of an update merged into it. -/
def applyUpdate (app : Json) (update : DeploymentUpdate) : Json :=
  let valued := app.setAll ["spec", "source", "helm", "valuesObject"] update.values.toList
  let labelled := valued.setAll ["metadata", "labels"] update.labels.toFields
  let changes := sourceFields.filterMap fun field =>
    match update.extensions.get? field with
    | some (.string s) => if Text.isBlankText s then none else some (field, Json.string s)
    | _ => none
  labelled.setAll ["spec", "source"] changes

/-- An application with a number of replicas, set as a parameter of its chart in the place of any
earlier one. A source without a chart has no such parameter. -/
def setReplicas (app : Json) (replicas : Int32) : Outcome Json :=
  if !(Source.ofApplication app).helm then
    .error (.unsupported "argocd" "scale"
      "application renders a plain directory source; change the replica count in Git instead")
  else
    let path := ["spec", "source", "helm", "parameters"]
    let others := (app.arrayAt path).filter fun entry =>
      entry.string?At ["name"] != some replicaParameter
    let parameter := Json.ofPairs [
      ("name", .string replicaParameter),
      ("value", .string (Text.signedDecimal replicas.toInt))]
    .ok (app.set (.array (others ++ [parameter])) path)

end DeploymentGateway.Application
