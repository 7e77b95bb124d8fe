import DeploymentGateway.Proofs.Flux.Pin
import DeploymentGateway.Proofs.History.Position
/-!
Histories and rollbacks of helm releases and kustomizations in the cluster.
-/

set_option autoImplicit false

namespace DeploymentGateway

open Cluster

namespace Flux.OnCluster

variable {home id : String} {now : Time.Instant} {view : View} {history : History}

/-- A search that finds an object finds it whatever it is made for. -/
private theorem begin_firstOf {operation id name : String} {kinds : List FluxKind}
    {found : FluxKind × Json}
    (ended : (firstOf home operation id name kinds).begin view = .ended (.ok found))
    (operation' : String) :
    (firstOf home operation' id name kinds).begin view = .ended (.ok found) := by
  induction kinds with
  | nil => cases ended
  | cons kind rest ih =>
    rcases reply : view (.get kind.resource home name) with (_ | _ | _ | _) | object
    · simp [firstOf, reply] at ended ⊢
      exact ih ended
    all_goals simp_all [firstOf]

private theorem shown_deployment
    (shown : (deploymentHistory home now id).begin view = .ended (.ok history)) :
    view .checkpoint = .ok () ∧ (∃ parsed, parseId id = .ok parsed) ∧
      view (.connect .cluster) = .ok () ∧
      ∃ kind object, (∀ operation,
          (resolve home operation id).begin view = .ended (.ok (kind, object))) ∧
        history = toHistory now kind object := by
  rcases waits : view .checkpoint with failure | ⟨⟩
  · simp [deploymentHistory, waits] at shown
  rcases parsed : parseId id with failure | ⟨asked, name⟩
  · simp [deploymentHistory, resolve, waits, parsed] at shown
  rcases connected : view (.connect .cluster) with failure | ⟨⟩
  · simp [deploymentHistory, resolve, waits, parsed, connected] at shown
  rcases resolved : (resolve home "history" id).begin view with ⟨failure | ⟨kind, object⟩⟩ | _
  · simp [deploymentHistory, waits, Program.begin_bind, resolved] at shown
  · simp [deploymentHistory, waits, Program.begin_bind, resolved] at shown
    refine ⟨rfl, ⟨_, rfl⟩, rfl, kind, object, fun operation => ?_, shown.symm⟩
    simp [resolve, parsed, connected] at resolved ⊢
    exact begin_firstOf resolved operation
  · simp [deploymentHistory, waits, Program.begin_bind, resolved] at shown

/-- How a rollback goes on when it has found its deployment and the revision that it goes to. -/
private def rollbackTo (home : String) (now : Time.Instant) (id : String) (kind : FluxKind)
    (object : Json) (version : String) : Program Deployment :=
  match kind with
  | .helmRelease =>
    write home now "rollback" .helmRelease
      (requestReconcile now (object.set (.string version) ["spec", "chart", "spec", "version"]))
  | .kustomization => pinSource now id object version >>= settle home now object

private theorem avoids_write (operation : String) (kind : FluxKind) (object : Json) :
    (write home now operation kind object).Avoids Failure.IsRevisionNotFound := by
  simp [write, forall_reply]

private theorem avoids_settle (object : Json) (pin : Pin) :
    (settle home now object pin).Avoids Failure.IsRevisionNotFound := by
  refine Program.avoids_attempt_bind (avoids_write _ _ _) (fun deployment => trivial) ?_
  intro failure other
  exact Program.avoids_bind (Program.never_attempt _).avoids fun _ => other

/-- A change sets a helm release to a version, or pins the repository of a kustomization to the commit in
it. -/
def GoesTo (home : String) (view : View) (kind : FluxKind) (object : Json) (version : String)
    (c : Call) : Prop :=
  match kind with
  | .helmRelease => ∃ release, c = .update helmReleaseKind home release ∧
      nameOf release = nameOf object ∧
      release.lookup ["spec", "chart", "spec", "version"] = some (.string version)
  | .kustomization => ∃ found repository commit,
      let source := sourceRef .kustomization object
      view (.get gitRepositoryKind source.namespace source.name) = .ok found ∧
        c = .update gitRepositoryKind source.namespace repository ∧
        nameOf repository = nameOf found ∧ commitOf version = some commit ∧
        repository.lookup ["spec", "ref", "commit"] = some (.string commit)

private theorem meets_write {targets : Call → Prop} (connected : view (.connect .cluster) = .ok ())
    (kind : FluxKind) (object : Json) :
    ((write home now "rollback" kind object).begin view).Meets targets ↔
      targets (.update kind.resource home object) := by
  simp [write, connected, Start.Meets, forall_reply]

private theorem meets_rollbackTo {kind : FluxKind} {object : Json} {version : String}
    (connected : view (.connect .cluster) = .ok ()) :
    ((rollbackTo home now id kind object version).begin view).Meets
      (GoesTo home view kind object version) := by
  cases kind with
  | helmRelease =>
    rw [rollbackTo, meets_write connected]
    refine ⟨_, rfl, ?_, ?_⟩
    · rw [nameOf_requestReconcile, nameOf_set_of_diverges (by simp)]
    · rw [requestReconcile, Json.lookup_set_of_names (by simp [requestedAt]) (by decide),
        Json.lookup_set_self]
  | kustomization =>
    rcases named : commitOf version with _ | commit
    · simp [rollbackTo, pinSource, named, Start.Meets, Failure.malformed]
    by_cases source : (sourceRef .kustomization object).kind = gitRepositoryKind.kind
    · rcases found : view (.get gitRepositoryKind (sourceRef .kustomization object).namespace
        (sourceRef .kustomization object).name) with error | repository
      · simp [rollbackTo, pinSource, named, source, connected, found, Start.Meets]
      · simp [rollbackTo, pinSource, named, source, connected, found, Start.Meets, forall_reply,
          avoids_settle]
        refine ⟨repository, _, commit, found, rfl, ?_, named, ?_⟩
        · exact nameOf_pinned now repository commit
        · rw [requestReconcile, Json.lookup_set_of_names (by simp [requestedAt]) (by decide),
            Json.lookup_set_self]
    · simp [rollbackTo, pinSource, named, source, Start.Meets]

private theorem numbered_revisionsOf (now : Time.Instant) (kind : FluxKind) (object : Json) :
    (revisionsOf now kind object).map (fun entry => entry.revision) =
      (List.range (revisionsOf now kind object).length).map Int64.ofNat := by
  cases kind with
  | helmRelease => exact numbered_of_zipIdx _ _ fun _ _ => rfl
  | kustomization =>
    simp only [revisionsOf]
    split <;> rfl

/-- The first change of a rollback is to the version or the commit of the revision. -/
def Targets (home id : String) (view : View) (entry : Revision) (c : Call) : Prop :=
  ∃ kind object, (resolve home "rollback" id).begin view = .ended (.ok (kind, object)) ∧
    GoesTo home view kind object entry.version c

/-- A rollback starts as the history of its helm release or kustomization has it. -/
theorem rollsBack {revision : Int64}
    (shown : (deploymentHistory home now id).begin view = .ended (.ok history)) :
    RollsBack id revision history.revisions (fun _ => Targets home id view)
      ((rollbackDeployment home now id revision).begin view) := by
  obtain ⟨waits, ⟨parsed, parses⟩, connected, kind, object, resolved, rfl⟩ := shown_deployment shown
  refine .of_historyIndex (fun index => (rollbackTo home now id kind object
    (Operation.versionAt (revisionsOf now kind object) index)).begin view)
      (numbered_revisionsOf now kind object) ?_ ?_ ?_
  · intro failure checked
    simp [rollbackDeployment, waits, parses, checked]
  · intro checked
    rcases within : Listing.historyIndex id revision (revisionsOf now kind object).length <;>
      simp [rollbackDeployment, waits, parses, checked, Program.begin_bind, resolved, toHistory,
        within]
    cases kind <;> rfl
  · intro index entry found
    have version : (revisionsOf now kind object)[index]? = some entry := found
    rw [Operation.versionAt, version]
    have meets : Start.Meets (GoesTo home view kind object entry.version)
        ((rollbackTo home now id kind object entry.version).begin view) := meets_rollbackTo connected
    exact meets.imp fun c targets => ⟨kind, object, resolved "rollback", targets⟩

end Flux.OnCluster

end DeploymentGateway
