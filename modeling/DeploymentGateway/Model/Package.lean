import DeploymentGateway.Model.Deployment
/-!
Packages that deployments are made from, what back ends can do, and the parameters of listings.
-/

set_option autoImplicit false

namespace DeploymentGateway

/-- What a package is: a directory of a repository, a chart, or a bundle of a registry. -/
inductive PackageType where
  | gitRepository
  | helmChart
  | crossplanePackage
  deriving DecidableEq

namespace PackageType

/-- Every type of package. -/
def all : List PackageType :=
  [gitRepository, helmChart, crossplanePackage]

/-- The word for a type. -/
def word : PackageType → String
  | gitRepository => "git-repository"
  | helmChart => "helm-chart"
  | crossplanePackage => "crossplane-package"

/-- The type that a word stands for. -/
def ofWord? (word : String) : Option PackageType :=
  all.find? fun type => type.word == word

/-- What the ids of packages of a type begin with. -/
def idMark : PackageType → String
  | gitRepository => "git"
  | helmChart => "chart"
  | crossplanePackage => "xpkg"

end PackageType

/-- Something that can be deployed. -/
structure Package where
  id : String
  name : String
  version : String
  type : PackageType
  description : String
  uploadedAt : Time.Instant
  extensions : Extensions

/-- A package that a caller brings: a reference to where it is kept. -/
structure PackageUpload where
  name : String
  reference : String
  version : Option String
  extensions : Extensions

/-- What a back end says it can do. -/
inductive Capability where
  | packageManagement
  | deploymentLifecycle
  | rollback
  | scaling
  | gitOps
  | healthChecks
  | metrics
  deriving DecidableEq

namespace Capability

/-- Every capability. -/
def all : List Capability :=
  [packageManagement, deploymentLifecycle, rollback, scaling, gitOps, healthChecks, metrics]

/-- The word for a capability. -/
def word : Capability → String
  | packageManagement => "package-management"
  | deploymentLifecycle => "deployment-lifecycle"
  | rollback => "rollback"
  | scaling => "scaling"
  | gitOps => "gitops"
  | healthChecks => "health-checks"
  | metrics => "metrics"

/-- The capability that a word stands for. -/
def ofWord? (word : String) : Option Capability :=
  all.find? fun capability => capability.word == word

end Capability

/-- Which items a listing shows. A limit of zero sets no limit. -/
structure Filter where
  «namespace» : Option String
  status : Option DeploymentStatus
  labels : Labels
  extensions : Extensions
  limit : UInt64
  offset : UInt64

/-- The filter that shows everything. -/
def Filter.everything : Filter :=
  ⟨none, none, .empty, .empty, 0, 0⟩

end DeploymentGateway
