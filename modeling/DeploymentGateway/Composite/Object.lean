import DeploymentGateway.Health.Composition
import DeploymentGateway.Listing
import DeploymentGateway.Model.Wire
import DeploymentGateway.PackageId
import DeploymentGateway.Rules
/-!
Composite resources and the configuration packages that define them: the deployment and the package
that can be read from such objects, and the tags of package references.
-/

set_option autoImplicit false

namespace DeploymentGateway.Composite

open Cluster

/-- The kind of configuration packages. -/
def configurationKind : ResourceKind :=
  ⟨"pkg.crossplane.io", "v1", "Configuration", "configurations", false⟩

/-- The annotation with the id of the package that a composite was created from. -/
def packageNote : Json.Path :=
  ["metadata", "annotations", "wide-deploy.io/package-id"]

/-- The tag of a package reference: what follows the first colon after the last slash, so that the
port of a registry is no tag. -/
def packageTag (reference : String) : Option String :=
  match Text.cutFirst? ':' (Text.afterLast '/' reference) with
  | some (_, tag) => if tag.isEmpty then none else some tag
  | none => none

/-- The package that a configuration object is. -/
def toPackage (now : Time.Instant) (configuration : Json) : Package :=
  let reference := configuration.stringAt ["spec", "package"]
  let verdict := Health.Composition.evaluate (conditionsOf configuration) (isDeleting configuration)
  let current := match configuration.string?At ["status", "currentRevision"] with
    | some revision => [("currentRevision", Json.string revision)]
    | none => []
  { id := PackageId.derive .crossplanePackage reference ""
    name := nameOf configuration
    version := (packageTag reference).getD "latest"
    type := .crossplanePackage
    description := verdict.message
    uploadedAt := (createdAt configuration).getD now
    extensions := .ofList
      ([("package", .string reference), ("status", verdict.status.toJson)] ++ current) }

/-- The deployment that a composite is. -/
def toDeployment (now : Time.Instant) (composite : Json) : Deployment :=
  let conditions := conditionsOf composite
  let verdict := Health.Composition.evaluate conditions (isDeleting composite)
  let created := (createdAt composite).getD now
  let fields := [("kind", ["kind"]), ("composition", ["spec", "compositionRef", "name"]),
    ("compositionRevision", ["spec", "compositionRevisionRef", "name"])]
  let described := fields.filterMap fun (name, path) =>
    (composite.string?At path).map fun s => (name, Json.string s)
  let resources := (composite.arrayAt ["spec", "resourceRefs"]).length
  { id := nameOf composite
    name := nameOf composite
    packageId := composite.stringAt packageNote
    «namespace» := composite.stringAt ["spec", "parameters", "namespace"]
    status := verdict.status
    version := Int64.ofInt ((composite.intAt ["metadata", "generation"]).getD 1)
    description := verdict.message
    createdAt := created
    updatedAt := (lastTransition conditions).getD created
    labels := labelsOf composite
    extensions := .ofList (described ++ [("resourceCount", .ofInt resources)]) }

/-- The status of a composite in detail. -/
def toStatus (now : Time.Instant) (id : String) (composite : Json) : StatusDetail :=
  let conditions := conditionsOf composite
  let verdict := Health.Composition.evaluate conditions (isDeleting composite)
  { id
    status := verdict.status
    message := verdict.message
    progress := verdict.progress
    conditions
    updatedAt := (lastTransition conditions).getD now
    extensions := (toDeployment now composite).extensions }

/-- The history of a composite. It is changed in place, so there is only its present state. -/
def toHistory (now : Time.Instant) (id : String) (composite : Json) : History :=
  let deployment := toDeployment now composite
  let generation := "generation " ++ Text.signedDecimal deployment.version.toInt
  { deploymentId := id
    revisions := [
      { revision := 0
        version := (composite.string?At ["spec", "compositionRevisionRef", "name"]).getD generation
        deployedAt := deployment.updatedAt
        status := deployment.status
        description := "current state" }] }

/-- A composite that names its package, where one is given. -/
def markPackage (composite : Json) (package : Option String) : Json :=
  match package with
  | some package =>
    if package.isEmpty then composite else composite.set (.string package) packageNote
  | none => composite

/-- The composite of a kind for a request, if the request keeps the rules. The namespace of the
request becomes one of its parameters. -/
def build (kind : ResourceKind) (request : DeploymentRequest) : Outcome Json := do
  Rules.checkName "name" request.name
  Rules.checkName "namespace" request.namespace
  let composition ← Rules.requiredText request.extensions "composition"
  Rules.checkName "extensions.composition" composition
  let parameters := request.values.insert "namespace" (.string request.namespace)
  let composite := Json.ofPairs [
    ("apiVersion", .string kind.apiVersion),
    ("kind", .string kind.kind),
    ("metadata", .ofPairs [
      ("name", .string request.name),
      ("labels", request.labels.toJson)]),
    ("spec", .ofPairs [
      ("compositionRef", .ofPairs [("name", .string composition)]),
      ("parameters", Extensions.toJson parameters)])]
  return markPackage composite request.packageId

/-- The composition that an update names, if it names one by the rules. -/
def updatedComposition (update : DeploymentUpdate) : Outcome (Option String) := do
  let composition ← Rules.optionalText update.extensions "composition"
  if let some composition := composition then
    Rules.checkName "extensions.composition" composition
  return composition

/-- A composite with the parameters, labels, composition and package of an update. -/
def applyUpdate (composite : Json) (update : DeploymentUpdate) (composition : Option String) :
    Json :=
  let valued := composite.setAll ["spec", "parameters"] update.values.toList
  let labelled := valued.setAll ["metadata", "labels"] update.labels.toFields
  let composed := match composition with
    | some composition => labelled.set (.string composition) ["spec", "compositionRef", "name"]
    | none => labelled
  markPackage composed update.packageId

/-- The reference that an upload asks for. A version is joined to a reference without a tag, and must
agree with the tag where there is one. -/
def uploadReference (upload : PackageUpload) : Outcome String :=
  let reference := Text.trim upload.reference
  if reference.isEmpty then .error (.invalid "reference" "is required")
  else match upload.version, packageTag reference with
    | some version, none => .ok (reference ++ ":" ++ version)
    | some version, some tag =>
      if version = tag then .ok reference
      else .error (.invalid "version" (Text.quoted version ++ " disagrees with the tag " ++
        Text.quoted tag ++ " in the reference"))
    | none, _ => .ok reference

/-- The configuration object for an upload, if the upload keeps the rules. -/
def buildConfiguration (upload : PackageUpload) : Outcome Json := do
  Rules.checkName "name" upload.name
  let reference ← uploadReference upload
  let policy := (← Rules.optionalText upload.extensions "packagePullPolicy").getD "IfNotPresent"
  return .ofPairs [
    ("apiVersion", .string configurationKind.apiVersion),
    ("kind", .string configurationKind.kind),
    ("metadata", .ofPairs [("name", .string upload.name)]),
    ("spec", .ofPairs [
      ("package", .string reference),
      ("packagePullPolicy", .string policy),
      ("revisionActivationPolicy", .string "Automatic")])]

end DeploymentGateway.Composite
