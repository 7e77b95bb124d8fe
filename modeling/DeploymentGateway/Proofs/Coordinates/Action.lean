import DeploymentGateway.Adapter
import DeploymentGateway.Proofs.Cluster.Coordinates
import DeploymentGateway.Proofs.Flux.Pin
import DeploymentGateway.Proofs.Program.Contract
import DeploymentGateway.Proofs.Refusal.Flux
import DeploymentGateway.Proofs.Refusal.Release
import DeploymentGateway.Proofs.Rewrite.Places
/-!
No operation takes an object out of its namespace. What it writes back it has read from the same namespace, and what
it changes in it lies elsewhere; what it makes anew the cluster itself puts into the namespace of the call.
-/

set_option autoImplicit false

namespace DeploymentGateway

open Cluster

/-- The kinds of the objects that a back end makes and changes in the cluster. -/
def Settings.resourceKinds : Settings → List ResourceKind
  | argocd _ => [Application.kind]
  | argocdRest _ _ _ _ => []
  | crossplane composite => [composite, Composite.configurationKind]
  | flux _ => [Flux.gitRepositoryKind, Flux.kustomizationKind, Flux.helmReleaseKind]
  | helm _ _ => [Release.recordKind]

/-- Objects of the kinds stay in their namespaces: what is read from a namespace lies in it, and so does what is
written back to it. -/
def Contract.inPlace (kinds : List ResourceKind) : Contract where
  Sends
    | .create kind _ _ => kind ∈ kinds
    | .update kind «namespace» object => kind ∈ kinds ∧ LiesIn kind «namespace» object
    | _ => True
  Gives
    | .get kind «namespace» _, .ok object => kind ∈ kinds → LiesIn kind «namespace» object
    | _, _ => True
  reads c reading := by
    cases c with
    | create _ _ _ | update _ _ _ => cases reading
    | _ => trivial

variable {kinds : List ResourceKind} {now : Time.Instant}

theorem Program.honours_update {α : Type} {kind : ResourceKind} (known : kind ∈ kinds) {«namespace» : String}
    {object : Json} (lies : LiesIn kind «namespace» object) {f : Except ClusterError Json → Program α}
    (next : ∀ reply, (f reply).Honours (.inPlace kinds)) :
    (update kind «namespace» object >>= f).Honours (.inPlace kinds) :=
  .call ⟨known, lies⟩ fun reply _ => next reply

/-- A rewrite leaves its object in place if its change does. -/
theorem Rewrite.honours_inPlace (rewrite : Rewrite) (known : rewrite.kind ∈ kinds) {object : Json}
    (lies : LiesIn rewrite.kind rewrite.namespace object)
    (same : ∀ changed, rewrite.change object = .ok changed → namespaceOf changed = namespaceOf object) :
    (rewrite.program object).Honours (.inPlace kinds) :=
  rewrite.honours_program fun changed made => ⟨known, lies.congr (same changed made)⟩

namespace Application.OnCluster

variable {home : String}

private theorem honours_search (known : kind ∈ kinds) {operation id : String} {check : Outcome Unit}
    {change : Json → Outcome Json}
    (same : ∀ object changed, change object = .ok changed → SameIdentity changed object) :
    (applicationSearch home now operation id check change).program.Honours (.inPlace kinds) := by
  refine Search.honours_program _ fun places found place mem object lies => ?_
  obtain ⟨rfl, -⟩ := applicationSearch_places found
  obtain rfl := List.mem_singleton.mp mem
  exact Rewrite.honours_inPlace _ known (lies known) fun changed made =>
    (same object changed made).namespaceOf_eq

theorem honours_action (known : kind ∈ kinds) (home : String) (now : Time.Instant) (action : Action) :
    (action.program (operations home now)).Honours (.inPlace kinds) := by
  by_cases reads : action.reads = true
  · exact (readOnly_action home now reads).honours
  cases action with
  | uploadPackage upload =>
    have reads : (uploadPackage upload).ReadOnly := by simp [uploadPackage]
    exact reads.honours
  | deletePackage id =>
    have reads : (deletePackage id).ReadOnly := by simp [deletePackage]
    exact reads.honours
  | createDeployment request =>
    exact Program.honours_checkpoint <| Program.honours_check fun app _ => Program.honours_connect <|
      Program.honours_perform known fun _ _ => Program.honours_expect fun _ _ => .done _
  | updateDeployment id update =>
    change ((Operation.applicationUpdate home id update).program now).Honours _
    rw [Operation.program_eq_search]
    refine honours_search known fun object changed made => ?_
    cases made
    exact sameIdentity_applyUpdate object update
  | deleteDeployment id =>
    exact Program.honours_checkpoint <| Program.honours_check fun _ _ => Program.honours_connect <|
      Program.honours_perform trivial fun reply _ => by cases reply <;> exact .done _
  | scaleDeployment id replicas =>
    change ((Operation.applicationScale home id replicas).program now).Honours _
    rw [Operation.program_eq_search]
    exact honours_search known fun object changed made => sameIdentity_setReplicas made
  | rollbackDeployment id revision =>
    change ((Operation.applicationRollback home id revision).program now).Honours _
    rw [Operation.program_eq_search]
    exact honours_search known fun object changed made => sameIdentity_pinned made
  | _ => exact absurd rfl reads

end Application.OnCluster

namespace Composite

private theorem namespaceOf_setAll {place : Json.Path}
    (away : ∀ name, Json.Path.Diverges (place ++ [name]) ["metadata", "namespace"])
    (object : Json) (fields : List (String × Json)) :
    namespaceOf (object.setAll place fields) = namespaceOf object := by
  induction fields generalizing object with
  | nil => rfl
  | cons field rest ih => exact (ih _).trans (namespaceOf_set_of_diverges (away field.1) object field.2)

private theorem namespaceOf_markPackage (composite : Json) (package : Option String) :
    namespaceOf (markPackage composite package) = namespaceOf composite := by
  unfold markPackage
  split
  · split
    · rfl
    · exact namespaceOf_set_of_diverges (by simp [packageNote]) composite _
  · rfl

/-- Whatever its parameters are, an update leaves a composite where it is. -/
theorem namespaceOf_applyUpdate (composite : Json) (update : DeploymentUpdate) (composition : Option String) :
    namespaceOf (applyUpdate composite update composition) = namespaceOf composite := by
  refine (namespaceOf_markPackage _ _).trans ?_
  rcases composition with _ | composition
  · exact (namespaceOf_setAll (by simp) _ _).trans (namespaceOf_setAll (by simp) _ _)
  · exact (namespaceOf_set_of_diverges (by simp) _ _).trans <|
      (namespaceOf_setAll (by simp) _ _).trans (namespaceOf_setAll (by simp) _ _)

namespace OnCluster

theorem honours_action {kind : ResourceKind} (known : kind ∈ kinds) (packages : configurationKind ∈ kinds)
    (now : Time.Instant) (action : Action) :
    (action.program (operations kind now)).Honours (.inPlace kinds) := by
  by_cases reads : action.reads = true
  · exact (readOnly_action kind now reads).honours
  cases action with
  | uploadPackage upload =>
    exact Program.honours_checkpoint <| Program.honours_check fun configuration _ => Program.honours_connect <|
      Program.honours_perform packages fun _ _ => Program.honours_expect fun _ _ => .done _
  | deletePackage id =>
    refine Program.honours_checkpoint <| (readOnly_configurationById now id).honours.bind fun configuration => ?_
    exact Program.honours_connect <| Program.honours_perform trivial fun reply _ => by cases reply <;> exact .done _
  | createDeployment request =>
    exact Program.honours_checkpoint <| Program.honours_check fun composite _ => Program.honours_connect <|
      Program.honours_perform known fun _ _ => Program.honours_expect fun _ _ => .done _
  | updateDeployment id update =>
    change (updateDeployment kind now id update).Honours _
    rw [← compositeSearch_program]
    refine Search.honours_program _ fun places found place mem object lies => ?_
    obtain ⟨composition, rfl, -⟩ := compositeSearch_places found
    obtain rfl := List.mem_singleton.mp mem
    refine Rewrite.honours_inPlace _ known (lies known) fun changed made => ?_
    cases made
    exact namespaceOf_applyUpdate object update composition
  | deleteDeployment id =>
    exact Program.honours_checkpoint <| Program.honours_check fun _ _ => Program.honours_connect <|
      Program.honours_perform trivial fun reply _ => by cases reply <;> exact .done _
  | scaleDeployment id replicas =>
    have reads : (scaleDeployment id replicas).ReadOnly := by simp [scaleDeployment]
    exact reads.honours
  | rollbackDeployment id revision =>
    have reads : (rollbackDeployment id revision).ReadOnly := by simp [rollbackDeployment]
    exact reads.honours
  | _ => exact absurd rfl reads

end OnCluster

end Composite

namespace Flux.OnCluster

variable {home : String}

private theorem honours_search {β : Type} {operation id : String} {check : Outcome β}
    {go : β → FluxKind → Json → Program Deployment}
    (goes : ∀ b kind object, (kind.resource ∈ kinds → LiesIn kind.resource home object) →
      (go b kind object).Honours (.inPlace kinds)) :
    (fluxSearch home operation id check go).program.Honours (.inPlace kinds) := by
  refine Search.honours_program _ fun places found place mem object lies => ?_
  obtain ⟨b, wanted, name, -, -, rfl⟩ := fluxSearch_places home found
  obtain ⟨kind, -, rfl⟩ := List.mem_map.mp mem
  exact goes b kind object lies

private theorem honours_rewrite {operation : String} {kind : FluxKind} (known : kind.resource ∈ kinds)
    {object : Json} (lies : LiesIn kind.resource home object) {change : Json → Outcome Json}
    (same : ∀ changed, change object = .ok changed → SameIdentity changed object) :
    ((fluxRewrite home now operation kind change).program object).Honours (.inPlace kinds) := by
  refine Rewrite.honours_inPlace _ known lies fun changed made => ?_
  obtain ⟨between, edited, written⟩ := Outcome.bind_eq_ok.mp made
  cases written
  exact ((sameIdentity_requestReconcile now between).trans (same between edited)).namespaceOf_eq

private theorem namespaceOf_requestReconcile (object : Json) :
    namespaceOf (requestReconcile now object) = namespaceOf object :=
  (sameIdentity_requestReconcile now object).namespaceOf_eq

private theorem namespaceOf_pinned (repository : Json) (commit : String) :
    namespaceOf (pinned now repository commit) = namespaceOf repository := by
  rw [pinned, namespaceOf_requestReconcile, namespaceOf_set_of_diverges (by simp)]

private theorem namespaceOf_repaired (repository : Json) (reference : Option Json) :
    namespaceOf (repaired now repository reference) = namespaceOf repository := by
  cases reference with
  | some reference => rw [repaired, namespaceOf_requestReconcile, namespaceOf_set_of_diverges (by simp)]
  | none =>
    rw [repaired, namespaceOf_requestReconcile, namespaceOf, Json.stringAt, Json.string?At,
      Json.lookup_remove_of_diverges (by simp)]
    rfl

private theorem honours_createKustomization (repositories : gitRepositoryKind ∈ kinds)
    (known : kustomizationKind ∈ kinds) (request : DeploymentRequest) :
    (createKustomization home now request).Honours (.inPlace kinds) := by
  refine Program.honours_check fun ⟨source, repository⟩ _ => Program.honours_check fun kustomization _ =>
    Program.honours_connect ?_
  rcases repository with _ | repository
  case' some =>
    refine Program.honours_perform repositories fun _ _ => Program.honours_expect fun _ _ => ?_
  -- What follows does not depend on whether a repository was made.
  all_goals
    refine Program.honours_perform known fun reply _ => ?_
    rcases reply with error | created
    · refine Program.honours_check fun url _ => ?_
      split
      · exact Program.honours_perform trivial fun _ _ => .done _
      · exact .done _
    · exact .done _

private theorem honours_removeOwnedSource (name : String) (object : Json) :
    (removeOwnedSource name object).Honours (.inPlace kinds) := by
  unfold removeOwnedSource
  dsimp only
  split
  · refine Program.honours_perform trivial fun reply _ => ?_
    rcases reply with error | repository
    · exact .done _
    · dsimp only
      split
      · exact Program.honours_perform trivial fun _ _ => .done _
      · exact .done _
  · exact .done _

section

variable (repositories : gitRepositoryKind ∈ kinds)

include repositories

private theorem honours_pinSource (id : String) (object : Json) (revision : String) :
    (pinSource now id object revision).Honours (.inPlace kinds) := by
  unfold pinSource
  split
  · dsimp only
    split
    · exact .done _
    · refine Program.honours_connect <| Program.honours_perform trivial fun reply lies => ?_
      refine Program.honours_expect fun repository found => ?_
      subst found
      exact Program.honours_update repositories ((lies repositories).congr (namespaceOf_pinned _ _)) fun _ =>
        Program.honours_expect fun _ _ => .done _
  · exact .done _

private theorem honours_restoreSource (pin : Pin) : (restoreSource now pin).Honours (.inPlace kinds) := by
  refine Program.honours_connect <| Program.honours_perform trivial fun reply lies => ?_
  refine Program.honours_expect fun repository found => ?_
  subst found
  rcases pin with ⟨«namespace», name, before⟩
  have sent : LiesIn gitRepositoryKind «namespace» (repaired now repository before) :=
    (lies repositories).congr (namespaceOf_repaired repository before)
  cases before <;>
    exact Program.honours_update repositories sent fun _ => Program.honours_expect fun _ _ => .done _

private theorem honours_rollbackKustomization (known : kustomizationKind ∈ kinds) {id : String}
    {revision : Int64} {object : Json} (lies : LiesIn kustomizationKind home object) :
    (Operation.rollbackKustomization now home id revision object).Honours (.inPlace kinds) := by
  refine Program.honours_check fun index _ => (honours_pinSource repositories id object _).bind fun pin => ?_
  have written : (write home now "rollback" .kustomization (requestReconcile now object)).Honours
      (.inPlace kinds) :=
    Program.honours_connect <| Program.honours_update known
      (lies.congr (namespaceOf_requestReconcile object)) fun _ =>
        Program.honours_expect fun _ _ => .done _
  refine written.attempt.bind fun outcome => ?_
  rcases outcome with failure | deployment
  · exact (honours_restoreSource repositories pin).attempt.bind fun _ => .done _
  · exact .done _

end

theorem honours_action (repositories : gitRepositoryKind ∈ kinds)
    (known : ∀ kind : FluxKind, kind.resource ∈ kinds) (home : String) (now : Time.Instant) (action : Action) :
    (action.program (operations home now)).Honours (.inPlace kinds) := by
  by_cases reads : action.reads = true
  · exact (readOnly_action home now reads).honours
  cases action with
  | uploadPackage upload =>
    have reads : (uploadPackage upload).ReadOnly := by simp [uploadPackage]
    exact reads.honours
  | deletePackage id =>
    have reads : (deletePackage id).ReadOnly := by simp [deletePackage]
    exact reads.honours
  | createDeployment request =>
    refine Program.honours_checkpoint <| Program.honours_check fun _ _ => Program.honours_check fun _ _ =>
      Program.honours_check fun kind _ => ?_
    cases kind with
    | kustomization => exact honours_createKustomization repositories (known .kustomization) request
    | helmRelease =>
      exact Program.honours_check fun release _ => Program.honours_connect <|
        Program.honours_perform (known .helmRelease) fun _ _ => Program.honours_expect fun _ _ => .done _
  | updateDeployment id update =>
    change ((Operation.fluxUpdate home id update).program now).Honours _
    rw [Operation.program_eq_search]
    exact honours_search fun asked kind object lies => honours_rewrite (known kind) (lies (known kind))
      fun changed made => sameIdentity_applyUpdate made
  | deleteDeployment id =>
    refine Program.honours_checkpoint <| (readOnly_resolve home "delete" id).honours.bind fun found => ?_
    obtain ⟨kind, object⟩ := found
    refine Program.honours_connect <| Program.honours_perform trivial fun reply _ =>
      Program.honours_expect fun _ _ => ?_
    split
    · exact honours_removeOwnedSource _ object
    · exact .done _
  | scaleDeployment id replicas =>
    change ((Operation.fluxScale home id replicas).program now).Honours _
    rw [Operation.program_eq_search]
    exact honours_search fun _ kind object lies => honours_rewrite (known kind) (lies (known kind))
      fun changed made => sameIdentity_fluxScaleChange made
  | rollbackDeployment id revision =>
    change ((Operation.fluxRollback home id revision).program now).Honours _
    rw [Operation.program_eq_search]
    refine honours_search fun _ kind object lies => ?_
    cases kind with
    | kustomization =>
      exact honours_rollbackKustomization repositories (known .kustomization) (lies (known .kustomization))
    | helmRelease =>
      exact honours_rewrite (known .helmRelease) (lies (known .helmRelease)) fun changed made =>
        sameIdentity_fluxRollbackChange made
  | _ => exact absurd rfl reads

end Flux.OnCluster

namespace Release

theorem ChartSource.namespaceOf_toRecord (source : ChartSource) (revision : ReleaseRevision) :
    namespaceOf (source.toRecord revision) = revision.namespace := by
  simp [namespaceOf, toRecord, Json.stringAt, Json.string?At, Json.lookup, Json.string?]

namespace OnManager

section

variable (known : recordKind ∈ kinds)

include known

/-- A record that is renewed is made from scratch, and lies where the release does. -/
private theorem honours_writeSource (revision : ReleaseRevision) (source : ChartSource) :
    (writeSource revision source).Honours (.inPlace kinds) := by
  refine Program.honours_connect <| Program.honours_perform trivial fun reply _ => ?_
  have ends (reply : Except ClusterError Json) :
      (Program.expect reply fun error => .failed backend "record chart source" revision.name
        (.cluster error)).Honours (.inPlace kinds) := by
    cases reply <;> exact .done _
  rcases reply with (_ | _ | _ | _) | existing
  · exact Program.honours_perform known fun reply _ => (ends reply).bind fun _ => .done _
  · exact .done _
  · exact .done _
  · exact .done _
  · have lies : LiesIn recordKind revision.namespace
        ((source.toRecord revision).set (.string (existing.stringAt ["metadata", "resourceVersion"]))
          ["metadata", "resourceVersion"]) := fun _ =>
      (namespaceOf_set_of_diverges (by simp) _ _).trans (source.namespaceOf_toRecord revision)
    exact Program.honours_update known lies fun reply => (ends reply).bind fun _ => .done _

private theorem honours_remember (revision : ReleaseRevision) (source : ChartSource) :
    (remember revision source).Honours (.inPlace kinds) :=
  (honours_writeSource known revision source).attempt.bind fun _ => .done _

private theorem honours_upgrade (operation : String) (request : UpgradeRequest) (source : ChartSource) :
    (upgrade now operation request source).Honours (.inPlace kinds) :=
  Program.honours_connect <| Program.honours_perform trivial fun _ _ => Program.honours_expect fun upgraded _ =>
    (honours_remember known upgraded source).bind fun _ => .done _

private theorem honours_renew (home id : String) (restored : ReleaseRevision) :
    (renew now home id restored).Honours (.inPlace kinds) := by
  refine (readOnly_recordedSource "rollback" home id).honours.attempt.bind fun found => ?_
  rcases found with failure | _ | source
  · exact .done _
  · exact .done _
  · exact (honours_remember known restored source).bind fun _ => .done _

end

private theorem honours_forgetSource (home id : String) : (forgetSource home id).Honours (.inPlace kinds) := by
  have connects : (Program.connect .cluster).ReadOnly := by simp
  refine connects.honours.attempt.bind fun connected => ?_
  cases connected with
  | ok _ => exact Program.honours_perform trivial fun _ _ => .done _
  | error _ => exact .done _

theorem honours_action (known : recordKind ∈ kinds) (now : Time.Instant) (action : Action) :
    (action.program (operations now)).Honours (.inPlace kinds) := by
  by_cases reads : action.reads = true
  · exact (readOnly_action now reads).honours
  cases action with
  | uploadPackage upload =>
    have reads : (uploadPackage upload).ReadOnly := by simp [uploadPackage]
    exact reads.honours
  | deletePackage id =>
    have reads : (deletePackage id).ReadOnly := by simp [deletePackage]
    exact reads.honours
  | createDeployment request =>
    refine Program.honours_checkpoint <| Program.honours_check fun _ _ => Program.honours_check fun _ _ =>
      Program.honours_check fun version _ => Program.honours_check fun repo _ =>
        (readOnly_requestedSource request version repo).honours.bind fun asked => ?_
    exact Program.honours_connect <| Program.honours_perform trivial fun _ _ =>
      Program.honours_expect fun revision _ => (honours_remember known revision asked.1).bind fun _ => .done _
  | updateDeployment id update =>
    exact Program.honours_checkpoint <| Program.honours_check fun chart _ =>
      Program.honours_check fun version _ => Program.honours_check fun repo _ =>
        (readOnly_current "update" id).honours.bind fun revision =>
          (readOnly_updatedSource revision id update chart version repo).honours.bind fun asked =>
            honours_upgrade known "update" _ asked.1
  | deleteDeployment id =>
    exact Program.honours_checkpoint <| (readOnly_locate "delete" id).honours.bind fun home =>
      Program.honours_connect <| Program.honours_perform trivial fun _ _ =>
        Program.honours_expect fun _ _ => honours_forgetSource home id
  | scaleDeployment id replicas =>
    refine Program.honours_checkpoint <| Program.honours_check fun _ _ => Program.honours_check fun _ _ =>
      (readOnly_current "scale" id).honours.bind fun revision =>
        (readOnly_recordedSource "scale" revision.namespace id).honours.bind fun source => ?_
    cases source with
    | none => exact .done _
    | some source => exact honours_upgrade known "scale" _ source
  | rollbackDeployment id revision =>
    exact Program.honours_checkpoint <| Program.honours_check fun _ _ => Program.honours_check fun _ _ =>
      (readOnly_locate "rollback" id).honours.bind fun home =>
        Program.honours_connect <| Program.honours_perform trivial fun _ _ =>
          Program.honours_expect fun history _ => Program.honours_check fun index _ =>
            Program.honours_perform trivial fun _ _ => Program.honours_expect fun _ _ =>
              Program.honours_perform trivial fun _ _ => Program.honours_expect fun restored _ =>
                honours_renew known home id restored
  | _ => exact absurd rfl reads

end OnManager

end Release

/-- The operations of a back end leave the objects of its kinds in their namespaces. -/
theorem Settings.honours_action {settings : Settings} (onCluster : settings.kind ≠ .argocdRest)
    (known : settings.resourceKinds ⊆ kinds) (now : Time.Instant) (action : Action) :
    (action.program (settings.operations now)).Honours (.inPlace kinds) := by
  cases settings with
  | argocd home => exact Application.OnCluster.honours_action (known (by simp [resourceKinds])) home now action
  | argocdRest _ _ _ _ => exact absurd rfl onCluster
  | crossplane composite =>
    exact Composite.OnCluster.honours_action (known (by simp [resourceKinds])) (known (by simp [resourceKinds]))
      now action
  | flux home =>
    refine Flux.OnCluster.honours_action (known (by simp [resourceKinds])) (fun kind => known ?_) home now action
    cases kind <;> simp [resourceKinds, Flux.FluxKind.resource]
  | helm _ _ => exact Release.OnManager.honours_action (known (by simp [resourceKinds])) now action

end DeploymentGateway
