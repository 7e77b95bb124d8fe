import DeploymentGateway.Model.Package
import DeploymentGateway.Program
/-!
The operations that every back end offers. Each checks that its caller still waits and that its input
keeps the rules before it touches a back end. What a back end cannot do fails as unsupported; nothing
is silently left undone.
-/

set_option autoImplicit false

namespace DeploymentGateway

/-- The kinds of adapters. -/
inductive AdapterKind where
  | argocd
  | argocdRest
  | crossplane
  | flux
  | helm
  deriving DecidableEq

namespace AdapterKind

/-- Every kind of adapter. -/
def all : List AdapterKind :=
  [argocd, argocdRest, crossplane, flux, helm]

/-- The word for a kind. -/
def word : AdapterKind → String
  | argocd => "argocd"
  | argocdRest => "argocd-rest"
  | crossplane => "crossplane"
  | flux => "flux"
  | helm => "helm"

/-- The kind that a word stands for. -/
def ofWord? (word : String) : Option AdapterKind :=
  all.find? fun kind => kind.word == word

end AdapterKind

/-- The operations of one back end. A rollback names a position in the history, oldest first, and
ends once the wanted state is written; the back end gets there on its own. -/
structure Operations where
  listPackages : Filter → Program (List Package)
  getPackage : String → Program Package
  uploadPackage : PackageUpload → Program Package
  deletePackage : String → Program Unit
  listDeployments : Filter → Program (List Deployment)
  getDeployment : String → Program Deployment
  createDeployment : DeploymentRequest → Program Deployment
  updateDeployment : String → DeploymentUpdate → Program Deployment
  deleteDeployment : String → Program Unit
  scaleDeployment : String → Int32 → Program Deployment
  rollbackDeployment : String → Int64 → Program Deployment
  deploymentStatus : String → Program StatusDetail
  deploymentHistory : String → Program History
  deploymentLogs : String → LogOptions → Program DeploymentLogs
  health : Program Unit

end DeploymentGateway
