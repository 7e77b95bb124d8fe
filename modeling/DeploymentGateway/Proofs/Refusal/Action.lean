import DeploymentGateway.Adapter
import DeploymentGateway.Proofs.Program.Change
/-!
Everything that can be asked of an adapter, and which of it only reads. With applications and composites
every check stands before the one write, so none of their operations is refused after a change; on a
server some fail after one, but then with the answer of the server.
-/

set_option autoImplicit false

namespace DeploymentGateway

open Cluster

/-- Everything that can be asked of an adapter. -/
inductive Action where
  | listPackages (filter : Filter)
  | getPackage (id : String)
  | uploadPackage (upload : PackageUpload)
  | deletePackage (id : String)
  | listDeployments (filter : Filter)
  | getDeployment (id : String)
  | createDeployment (request : DeploymentRequest)
  | updateDeployment (id : String) (update : DeploymentUpdate)
  | deleteDeployment (id : String)
  | scaleDeployment (id : String) (replicas : Int32)
  | rollbackDeployment (id : String) (revision : Int64)
  | deploymentStatus (id : String)
  | deploymentHistory (id : String)
  | deploymentLogs (id : String) (options : LogOptions)
  | health

namespace Action

/-- What an action results in. -/
abbrev Result : Action → Type
  | listPackages _ => List Package
  | getPackage _ | uploadPackage _ => Package
  | listDeployments _ => List Deployment
  | getDeployment _ | createDeployment _ | updateDeployment _ _ | scaleDeployment _ _
  | rollbackDeployment _ _ => Deployment
  | deploymentStatus _ => StatusDetail
  | deploymentHistory _ => History
  | deploymentLogs _ _ => DeploymentLogs
  | deletePackage _ | deleteDeployment _ | health => Unit

/-- The program of an action of a back end. -/
@[simp]
def program (operations : Operations) : (action : Action) → Program action.Result
  | listPackages filter => operations.listPackages filter
  | getPackage id => operations.getPackage id
  | uploadPackage upload => operations.uploadPackage upload
  | deletePackage id => operations.deletePackage id
  | listDeployments filter => operations.listDeployments filter
  | getDeployment id => operations.getDeployment id
  | createDeployment request => operations.createDeployment request
  | updateDeployment id update => operations.updateDeployment id update
  | deleteDeployment id => operations.deleteDeployment id
  | scaleDeployment id replicas => operations.scaleDeployment id replicas
  | rollbackDeployment id revision => operations.rollbackDeployment id revision
  | deploymentStatus id => operations.deploymentStatus id
  | deploymentHistory id => operations.deploymentHistory id
  | deploymentLogs id options => operations.deploymentLogs id options
  | health => operations.health

/-- The action is one that asks for what is there. -/
def reads : Action → Bool
  | listPackages _ | getPackage _ | listDeployments _ | getDeployment _ | deploymentStatus _
  | deploymentHistory _ | deploymentLogs _ _ | health => true
  | uploadPackage _ | deletePackage _ | createDeployment _ | updateDeployment _ _
  | deleteDeployment _ | scaleDeployment _ _ | rollbackDeployment _ _ => false

end Action

/-- A failure is not one of the back end: the operation was refused, or its caller gave up. -/
def Failure.IsRefusal (failure : Failure) : Prop :=
  failure.kind ≠ .backend

@[simp]
theorem Failure.not_isRefusal_failed (backend operation resource : String) (cause : Cause) :
    ¬ (Failure.failed backend operation resource cause).IsRefusal :=
  fun refused => refused rfl

namespace Application.OnCluster

variable {refusal : Failure → Prop}

theorem readOnly_action (home : String) (now : Time.Instant) {action : Action}
    (reads : action.reads = true) : (action.program (operations home now)).ReadOnly := by
  cases action with
  | listPackages filter => simp [operations, listPackages, applications, forall_reply]
  | getPackage id =>
    simp [operations, getPackage, applications, forall_reply]
    intro apps
    split <;> simp
  | listDeployments filter => simp [operations, listDeployments, applications, forall_reply]
  | getDeployment id => simp [operations, getDeployment, application, forall_reply]
  | deploymentStatus id => simp [operations, deploymentStatus, application, forall_reply]
  | deploymentHistory id => simp [operations, deploymentHistory, application, forall_reply]
  | deploymentLogs id options => simp [operations, deploymentLogs, application, forall_reply]
  | health => simp [operations, health]
  | _ => cases reads

theorem careful_action (home : String) (now : Time.Instant) (action : Action) :
    (action.program (operations home now)).Careful refusal := by
  by_cases reads : action.reads = true
  · exact (readOnly_action home now reads).careful
  cases action with
  | uploadPackage upload => simp [operations, uploadPackage]
  | deletePackage id => simp [operations, deletePackage]
  | createDeployment request => simp [operations, createDeployment, forall_reply]
  | updateDeployment id update =>
    simp [operations, updateDeployment, application, write, forall_reply]
  | deleteDeployment id => simp [operations, deleteDeployment, forall_reply]
  | scaleDeployment id replicas =>
    simp [operations, scaleDeployment, application, write, forall_reply]
  | rollbackDeployment id revision =>
    simp [operations, rollbackDeployment, application, write, forall_reply]
  | _ => exact absurd rfl reads

end Application.OnCluster

namespace Composite.OnCluster

variable {refusal : Failure → Prop}

theorem readOnly_configurationById (now : Time.Instant) (id : String) :
    (configurationById now id).ReadOnly := by
  simp [configurationById, configurations, forall_reply]
  intro configurations
  split <;> simp

theorem readOnly_action (kind : ResourceKind) (now : Time.Instant) {action : Action}
    (reads : action.reads = true) : (action.program (operations kind now)).ReadOnly := by
  cases action with
  | listPackages filter => simp [operations, listPackages, configurations, forall_reply]
  | getPackage id => simp [operations, getPackage, Program.readOnly_bind, readOnly_configurationById]
  | listDeployments filter => simp [operations, listDeployments, forall_reply]
  | getDeployment id => simp [operations, getDeployment, composite, forall_reply]
  | deploymentStatus id => simp [operations, deploymentStatus, composite, forall_reply]
  | deploymentHistory id => simp [operations, deploymentHistory, composite, forall_reply]
  | deploymentLogs id options => simp [operations, deploymentLogs]
  | health => simp [operations, health]
  | _ => cases reads

theorem careful_action (kind : ResourceKind) (now : Time.Instant) (action : Action) :
    (action.program (operations kind now)).Careful refusal := by
  by_cases reads : action.reads = true
  · exact (readOnly_action kind now reads).careful
  cases action with
  | uploadPackage upload => simp [operations, uploadPackage, forall_reply]
  | deletePackage id =>
    have writes (configuration : Json) : (do
        Program.connect .cluster
        Program.expect (← .delete configurationKind "" (nameOf configuration))
          (packageFailure backend "delete package" id)).Careful refusal := by
      simp [forall_reply]
    simp [operations, deletePackage]
    exact (readOnly_configurationById now id).bind_careful (by simpa using writes)
  | createDeployment request => simp [operations, createDeployment, forall_reply]
  | updateDeployment id update => simp [operations, updateDeployment, composite, forall_reply]
  | deleteDeployment id => simp [operations, deleteDeployment, forall_reply]
  | scaleDeployment id replicas => simp [operations, scaleDeployment]
  | rollbackDeployment id revision => simp [operations, rollbackDeployment]
  | _ => exact absurd rfl reads

end Composite.OnCluster

namespace Application.OnServer

/-- A failure that a server has no part in: a refusal of the gateway itself, or a caller who gave up. -/
def IsOwn (failure : Failure) : Prop :=
  failure.IsRefusal ∧ failure.kind ≠ .notFound

theorem not_isOwn_applicationFailure (operation id : String) (error : Server.ServerError) :
    ¬ IsOwn (applicationFailure operation id error) := by
  unfold applicationFailure
  split <;> simp [IsOwn, Failure.IsRefusal, Failure.kind]

theorem readOnly_action (home address : String) (now : Time.Instant) {action : Action}
    (reads : action.reads = true) : (action.program (operations home now address)).ReadOnly := by
  cases action with
  | listPackages filter => simp [operations, listPackages, applications, listRequest, forall_reply]
  | getPackage id =>
    simp [operations, getPackage, applications, listRequest, forall_reply]
    intro apps
    split <;> simp
  | listDeployments filter => simp [operations, listDeployments, applications, listRequest, forall_reply]
  | getDeployment id => simp [operations, getDeployment, application, getRequest, forall_reply]
  | deploymentStatus id => simp [operations, deploymentStatus, application, getRequest, forall_reply]
  | deploymentHistory id => simp [operations, deploymentHistory, application, getRequest, forall_reply]
  | deploymentLogs id options => simp [operations, deploymentLogs]
  | health => simp [operations, health, versionRequest, forall_reply]
  | _ => cases reads

theorem careful_action (home address : String) (now : Time.Instant) (action : Action) :
    (action.program (operations home now address)).Careful IsOwn := by
  by_cases reads : action.reads = true
  · exact (readOnly_action home address now reads).careful
  cases action with
  | uploadPackage upload => simp [operations, uploadPackage]
  | deletePackage id => simp [operations, deletePackage]
  | createDeployment request =>
    simp [operations, createDeployment, createRequest, forall_reply, IsOwn, Failure.IsRefusal,
      Failure.kind]
  | updateDeployment id update =>
    simp [operations, updateDeployment, application, updateRequest, getRequest, syncRequest,
      forall_reply, not_isOwn_applicationFailure]
  | deleteDeployment id =>
    simp [operations, deleteDeployment, deleteRequest, forall_reply, not_isOwn_applicationFailure]
  | scaleDeployment id replicas => simp [operations, scaleDeployment]
  | rollbackDeployment id revision =>
    simp [operations, rollbackDeployment, application, getRequest, rollbackRequest, forall_reply,
      not_isOwn_applicationFailure]
  | _ => exact absurd rfl reads

end Application.OnServer

end DeploymentGateway
