import DeploymentGateway.Proofs.Cluster.Succession
import DeploymentGateway.Proofs.Flux.Creation
import DeploymentGateway.Proofs.Flux.Rollback
import DeploymentGateway.Proofs.Refusal.Action
/-!
Operations on kustomizations and helm releases are not refused after a change, but for one: the rollback
of a kustomization asks its caller again after it has pinned a repository, and may fail for that.
-/

set_option autoImplicit false

namespace DeploymentGateway

open Cluster

namespace Flux.OnCluster

theorem readOnly_firstOf (home operation id name : String) (kinds : List FluxKind) :
    (firstOf home operation id name kinds).ReadOnly := by
  induction kinds with
  | nil => trivial
  | cons kind rest ih =>
    refine ⟨rfl, fun reply => ?_⟩
    rcases reply with (_ | _ | _ | _) | object
    · exact ih
    all_goals trivial

theorem readOnly_resolve (home operation id : String) : (resolve home operation id).ReadOnly := by
  simp [resolve, readOnly_firstOf]

theorem readOnly_allObjects (home : String) (filter : Filter) :
    (allObjects home filter).ReadOnly := by
  have objects (kind : FluxKind) :
      (objectsOf home (Listing.labelSelector filter.labels) kind).ReadOnly := by
    simp [objectsOf, forall_reply]
  simp only [allObjects, Program.ofOutcome, Program.readOnly_done_bind]
  exact fun kinds _ => Program.readOnly_bind (Program.readOnly_mapM objects kinds) fun _ => trivial

theorem readOnly_listPackages (home : String) (now : Time.Instant) (filter : Filter) :
    (listPackages home now filter).ReadOnly := by
  refine Program.readOnly_bind (by simp) fun _ =>
    Program.readOnly_bind (readOnly_allObjects home _) fun objects => ?_
  simp [sourceUrls, forall_reply]

theorem readOnly_action (home : String) (now : Time.Instant) {action : Action}
    (reads : action.reads = true) : (action.program (operations home now)).ReadOnly := by
  cases action with
  | listPackages filter => exact readOnly_listPackages home now filter
  | getPackage id =>
    refine Program.readOnly_bind (by simp) fun _ =>
      Program.readOnly_bind (readOnly_listPackages home now _) fun packages => ?_
    split <;> simp
  | listDeployments filter =>
    simp [operations, listDeployments, Program.readOnly_bind, readOnly_allObjects]
  | getDeployment id => simp [operations, getDeployment, Program.readOnly_bind, readOnly_resolve]
  | deploymentStatus id =>
    simp [operations, deploymentStatus, Program.readOnly_bind, readOnly_resolve]
  | deploymentHistory id =>
    simp [operations, deploymentHistory, Program.readOnly_bind, readOnly_resolve]
  | deploymentLogs id options =>
    refine Program.readOnly_bind (by simp) fun _ => Program.readOnly_bind (by simp) fun _ =>
      Program.readOnly_bind (by simp) fun _ =>
        Program.readOnly_bind (readOnly_resolve home _ _) fun found => ?_
    simp [forall_reply]
  | health => simp [operations, health]
  | _ => cases reads

/-- What can go wrong after the repository was made is a failure of the back end: the address of the
repository has been read before. -/
theorem careful_createKustomization (home : String) (now : Time.Instant)
    (request : DeploymentRequest) :
    (createKustomization home now request).Careful Failure.IsRefusal := by
  rcases found : newSource home request with failure | ⟨source, repository⟩
  · simp [createKustomization, found]
  rcases built : buildKustomization home request source with failure | kustomization
  · simp [createKustomization, found, built]
  obtain ⟨url, addressed, -⟩ := newSource_cases found
  cases repository
  all_goals
    simp [createKustomization, found, built, addressed, forall_reply]
    intro error
    split <;> simp

theorem never_removeOwnedSource {refusal : Failure → Prop} (name : String) (object : Json) :
    (removeOwnedSource name object).Never refusal := by
  by_cases repository : (sourceRef .kustomization object).kind = gitRepositoryKind.kind
  · simp only [removeOwnedSource, repository, beq_self_eq_true, if_true, Program.get,
      Program.perform, Program.call_bind, Program.done_ok_bind, Program.never_call, forall_reply]
    refine ⟨by simp, fun found => ?_⟩
    split <;> simp
  · simp [removeOwnedSource, repository]

/-- A rollback apart, no operation is refused after it has changed something. -/
theorem careful_action (home : String) (now : Time.Instant) {action : Action}
    (other : ∀ id revision, action ≠ .rollbackDeployment id revision) :
    (action.program (operations home now)).Careful Failure.IsRefusal := by
  by_cases reads : action.reads = true
  · exact (readOnly_action home now reads).careful
  cases action with
  | uploadPackage upload => simp [operations, uploadPackage]
  | deletePackage id => simp [operations, deletePackage]
  | createDeployment request =>
    refine Program.ReadOnly.bind_careful (by simp) fun _ =>
      Program.ReadOnly.bind_careful (by simp) fun _ =>
        Program.ReadOnly.bind_careful (by simp) fun _ =>
          Program.ReadOnly.bind_careful (by simp) fun kind => ?_
    cases kind with
    | kustomization => exact careful_createKustomization home now request
    | helmRelease => simp [createHelmRelease, forall_reply]
  | updateDeployment id update =>
    change ((Operation.fluxUpdate home id update).program now).Careful _
    rw [Operation.program_eq_search]
    exact careful_fluxSearch home fun _ _ object => Rewrite.careful_program _ object
  | deleteDeployment id =>
    refine Program.ReadOnly.bind_careful (by simp) fun _ =>
      (readOnly_resolve home _ _).bind_careful fun found => ?_
    simp [forall_reply]
    split
    · exact never_removeOwnedSource _ _
    · trivial
  | scaleDeployment id replicas =>
    change ((Operation.fluxScale home id replicas).program now).Careful _
    rw [Operation.program_eq_search]
    exact careful_fluxSearch home fun _ _ object => Rewrite.careful_program _ object
  | rollbackDeployment id revision => exact absurd rfl (other id revision)
  | _ => exact absurd rfl reads

end Flux.OnCluster

end DeploymentGateway
