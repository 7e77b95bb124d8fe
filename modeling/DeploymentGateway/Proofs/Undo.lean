import DeploymentGateway.Proofs.Creation.Cluster
import DeploymentGateway.Proofs.Listing.Reading
import DeploymentGateway.Proofs.Release.Leftover
/-!
To delete a new deployment undoes its creation. A back end in the cluster removes exactly what it has made: the
source of a kustomization goes only where it was made with it, as a name that is free for a kustomization is
free for its repository too. And a release goes with its record, which is new unless a deletion left it behind.
-/

set_option autoImplicit false

namespace DeploymentGateway

open Cluster

/-- The memory without the object under a key. -/
def Memory.eraseObject (memory : Memory) (key : ObjectKey) : Memory :=
  { memory with cluster := { memory.cluster with objects := memory.cluster.objects.erase key } }

/-- A deletion succeeds and brings back the objects and the releases of an earlier memory. -/
def Program.Restores (now : Time.Instant) (earlier memory : Memory) (p : Program Unit) : Prop :=
  ∃ after, p.runInMemory now memory = (.ok (), after) ∧ after.releases = earlier.releases ∧
    after.cluster.objects = earlier.cluster.objects

section

variable {now : Time.Instant} {memory after : Memory} {request : DeploymentRequest}
  {deployment : Deployment}

/-- What was made in a free place is removed from there again. -/
private theorem restores_of_made {kind : ResourceKind} {home name : String} {asked new : Json}
    {failure : ClusterError → Failure}
    (made : Made now kind home name asked memory.cluster.objects after.cluster.objects new)
    (checked : Rules.checkName "id" name = .ok ()) (releases : after.releases = memory.releases)
    (later : Time.Instant) :
    (do
      Program.checkpoint
      Program.ofOutcome (Rules.checkName "id" name)
      Program.connect .cluster
      Program.expect (← Program.delete kind home name) failure : Program Unit).Restores later memory
        after := by
  have present : (after.cluster.object? kind home name).isSome := by
    rw [Store.object?, made.stored]
    rfl
  refine ⟨after.eraseObject (Store.key kind home name), ?_, releases, made.erase_eq⟩
  simp [checked, Store.delete_of_present _ _ _ present, Memory.eraseObject]

theorem Application.OnCluster.restores_deleteDeployment {home : String}
    (run : (createDeployment home now request).Runs now memory (.ok deployment) after)
    (later : Time.Instant) : (deleteDeployment home deployment.id).Restores later memory after := by
  obtain ⟨app, new, built, made, rfl⟩ :=
    ensures_createDeployment memory _ after rfl run deployment rfl
  have named : (toDeployment now new).id = request.name := (made.conveys (conveys_of_build built)).named
  have releases : after.releases = memory.releases :=
    (sparesReleases_action home now (.createDeployment request)).releases_of_runs run
  rw [named]
  exact restores_of_made made (Rules.checkName_field (checkName_of_build built)) releases later

theorem Composite.OnCluster.restores_deleteDeployment {kind : ResourceKind}
    (run : (createDeployment kind now request).Runs now memory (.ok deployment) after)
    (later : Time.Instant) : (deleteDeployment kind deployment.id).Restores later memory after := by
  obtain ⟨composite, new, built, made, rfl⟩ :=
    ensures_createDeployment memory _ after rfl run deployment rfl
  have named : (toDeployment now new).id = request.name := (made.conveys (conveys_of_build built)).named
  have releases : after.releases = memory.releases :=
    (sparesReleases_action kind now (.createDeployment request)).releases_of_runs run
  rw [named]
  exact restores_of_made made (Rules.checkName_field (checkName_of_build built)) releases later

namespace Flux

open OnCluster

variable {home id : String} {kind : FluxKind} {object : Json}

/-- To remove the repository of a deleted kustomization never fails. -/
private theorem removeOwnedSource_succeeds (name : String) (object : Json) (later : Time.Instant)
    (memory : Memory) : ((removeOwnedSource name object).runInMemory later memory).1 = .ok () := by
  have ensures : (removeOwnedSource name object).Ensures .objects later memory.cluster.objects
      fun outcome _ => outcome = .ok () := by
    unfold removeOwnedSource
    dsimp only
    split
    · refine .get (fun _ => .done rfl) fun repository _ => ?_
      dsimp only
      split
      · exact .delete (fun _ => .done rfl) fun _ _ => .done rfl
      · exact .done rfl
    · exact .done rfl
  exact ensures memory _ _ rfl (Program.runs_runInMemory _ memory)

/-- A deletion of an object that an id addresses succeeds. -/
private theorem deleteDeployment_of_addressed (named : Named memory.cluster.objects)
    (addressed : Addressed home id memory.cluster.objects kind object) (later : Time.Instant) :
    ∃ after, (deleteDeployment home id).runInMemory later memory = (.ok (), after) := by
  have found : (resolve home "delete" id).runInMemory later memory = _ :=
    resolve_of_addressed "delete" addressed
  obtain ⟨wanted, name, -, -, stored⟩ := addressed
  have own : nameOf object = name := named _ _ stored
  have present : (memory.cluster.object? kind.resource home name).isSome := by
    rw [Store.object?, stored]
    rfl
  have deleted := Store.delete_of_present _ _ _ present
  refine ⟨_, Prod.ext ?_ rfl⟩
  change ((resolve home "delete" id >>= _).runInMemory later memory).1 = .ok ()
  rw [Program.runInMemory_bind, found]
  cases kind with
  | helmRelease => simp [own, deleted]
  | kustomization => simpa [own, deleted] using removeOwnedSource_succeeds name object later _

/-- To delete what was made brings back what was there before. -/
private theorem Created.of_deleted {objects after after' : Objects} (h : Sourced objects)
    (created : Created home now request objects kind object after)
    (deleted : Deleted home after after' kind object) : after' = objects := by
  have named : nameOf object = request.name := by
    obtain ⟨between, asked, made, conveys, -⟩ := created.made
    exact (made.conveys conveys).named
  by_cases owns : OwnsSource home kind object
  · have left := deleted.owner owns
    rw [named] at left
    cases created with
    | kustomization found built made =>
      rw [left, made.erase_eq, SortedMap.erase_of_get?_eq_none (h.repository_free made.free)]
    | sourced found built source made => rw [left, made.erase_eq, source.erase_eq]
    | helmRelease built made => cases owns.1
  · have left := deleted.other owns
    rw [named] at left
    cases created with
    | kustomization found built made => rw [left, made.erase_eq]
    | sourced found built source made =>
      -- It is the owner of the source that was made with it.
      obtain ⟨store, rfl⟩ := made.written
      have source : sourceRef .kustomization _ = _ := (kept_created built now store).2
      exact absurd ⟨rfl, source.trans (congrArg (repositoryRef home) named.symm)⟩ owns
    | helmRelease built made => rw [left, made.erase_eq]

theorem OnCluster.restores_deleteDeployment (reached : Reached (operations home) memory)
    (run : (createDeployment home now request).Runs now memory (.ok deployment) after)
    (later : Time.Instant) : (deleteDeployment home deployment.id).Restores later memory after := by
  obtain ⟨kind, new, checked, -, -, created, rfl⟩ :=
    ensures_createDeployment memory _ after rfl run deployment rfl
  have reached' : Reached (operations home) after := .run now (.createDeployment request) reached run
  have named := reached'.reachable.named
  have addressed : Addressed home (toDeployment now kind new).id after.cluster.objects kind new := by
    obtain ⟨between, asked, made, conveys, -⟩ := created.made
    change Addressed home (deploymentId kind (nameOf new)) after.cluster.objects kind new
    rw [(made.conveys conveys).named]
    exact addressed_deploymentId (Rules.checkName_field checked) made.stored
  obtain ⟨after', deleted⟩ := deleteDeployment_of_addressed named addressed later
  have run' := Program.runs_of_runInMemory deleted
  have releases : after.releases = memory.releases :=
    (sparesReleases_action home now (.createDeployment request)).releases_of_runs run
  have releases' : after'.releases = after.releases :=
    (sparesReleases_action home later (.deleteDeployment _)).releases_of_runs run'
  refine ⟨after', deleted, releases'.trans releases, ?_⟩
  · obtain ⟨-, succeeded⟩ :=
      ensures_deleteDeployment (sourced_of_reached reached') named after _ after' rfl run'
    obtain ⟨kind', object, addressed', left⟩ := succeeded rfl
    obtain ⟨rfl, rfl⟩ := addressed.unique addressed'
    exact created.of_deleted (sourced_of_reached reached) left

end Flux

/-- What a deletion brings back of the memory in which its deployment was created: all releases, and all
objects unless the deployment is a release for which there was a record before, which is gone then. -/
structure Settings.BringsBack (settings : Settings) (request : DeploymentRequest)
    (memory after : Memory) : Prop where
  releases : after.releases = memory.releases
  objects_iff : after.cluster.objects = memory.cluster.objects ↔ (settings.kind = .helm →
    memory.cluster.objects.get? (Release.recordKey request.namespace request.name) = none)
  objects_of_helm : settings.kind = .helm → after.cluster.objects =
    memory.cluster.objects.erase (Release.recordKey request.namespace request.name)

theorem Settings.BringsBack.of_eq {settings : Settings} (inCluster : settings.kind ≠ .helm)
    (releases : after.releases = memory.releases)
    (objects : after.cluster.objects = memory.cluster.objects) :
    settings.BringsBack request memory after where
  releases := releases
  objects_iff := iff_of_true objects fun helm => absurd helm inCluster
  objects_of_helm helm := absurd helm inCluster

/-- In every state that a gateway can get into, a new deployment is deleted by its id, and that brings back
what was there before. There is nothing that it does not bring back as long as no caller gives up on a
deletion once the release is removed. -/
theorem bringsBack_of_reached (settings : Settings) (inMemory : settings.kind ≠ .argocdRest)
    (reached : Reached settings.operations memory)
    (run : ((settings.operations now).createDeployment request).Runs now memory (.ok deployment) after)
    (alone : settings.kind = .helm → ∀ home, memory.releases.history? home request.name ≠ none →
      home = request.namespace) (later : Time.Instant) :
    ∃ after', ((settings.operations later).deleteDeployment deployment.id).runInMemory later after =
        (.ok (), after') ∧
      settings.BringsBack request memory after' ∧
      ((settings.kind = .helm → Release.OnManager.Cleared memory) →
        after'.cluster.objects = memory.cluster.objects) := by
  cases settings with
  | argocd home =>
    obtain ⟨after', deleted, releases, objects⟩ :=
      Application.OnCluster.restores_deleteDeployment run later
    exact ⟨after', deleted, .of_eq nofun releases objects, fun _ => objects⟩
  | argocdRest address token home seconds => exact absurd rfl inMemory
  | crossplane kind =>
    obtain ⟨after', deleted, releases, objects⟩ :=
      Composite.OnCluster.restores_deleteDeployment run later
    exact ⟨after', deleted, .of_eq nofun releases objects, fun _ => objects⟩
  | flux home =>
    obtain ⟨after', deleted, releases, objects⟩ :=
      Flux.OnCluster.restores_deleteDeployment reached run later
    exact ⟨after', deleted, .of_eq nofun releases objects, fun _ => objects⟩
  | helm binary context =>
    have filed := (Release.dated_of_reached reached).toFiled
    obtain ⟨vacant, after', deleted, releases, objects⟩ :=
      Release.OnManager.deleteDeployment_of_created filed run (alone rfl) later
    have objects_iff : after'.cluster.objects = memory.cluster.objects ↔
        memory.cluster.objects.get? (Release.recordKey request.namespace request.name) = none := by
      rw [objects, SortedMap.erase_eq_self_iff]
    refine ⟨after', deleted, ⟨releases, ?_, fun _ => objects⟩, fun cleared => objects_iff.mpr ?_⟩
    · rw [objects_iff]
      exact ⟨fun absent _ => absent, fun absent => absent rfl⟩
    · by_contra recorded
      exact (cleared rfl).noLeftover _ _ recorded vacant

end

/-- The memory in which a kustomization is applied from a repository that is not there. -/
def unsourced : Memory :=
  ((Flux.OnCluster.createDeployment "flux-system" ⟨0, 0⟩ Flux.sharedSource).runInMemory ⟨0, 0⟩
    .empty).2

/-- The kustomization of that name is then made with the repository, and both go with it. -/
theorem bringsBack_of_reached_unsourced :
    ∃ deployment after after', deployment.id = "kustomization:web" ∧
      (Flux.OnCluster.createDeployment "flux-system" ⟨1, 0⟩ Flux.ownSource).Runs ⟨1, 0⟩ unsourced
        (.ok deployment) after ∧
      after.cluster.object? Flux.gitRepositoryKind "flux-system" "web" ≠ none ∧
      (Flux.OnCluster.deleteDeployment "flux-system" deployment.id).runInMemory ⟨2, 0⟩ after =
        (.ok (), after') ∧
      after'.cluster.objects = unsourced.cluster.objects := by
  have reached : Reached (Flux.OnCluster.operations "flux-system") unsourced :=
    Reached.empty.runInMemory ⟨0, 0⟩ (.createDeployment Flux.sharedSource)
  have created : (Flux.OnCluster.createDeployment "flux-system" ⟨1, 0⟩ Flux.ownSource).runInMemory
      ⟨1, 0⟩ unsourced = (.ok _, _) := rfl
  have run := Program.runs_of_runInMemory created
  obtain ⟨after', deleted, -, restored⟩ :=
    bringsBack_of_reached (.flux "flux-system") nofun reached run nofun ⟨2, 0⟩
  refine ⟨_, _, after', rfl, run, ?_, deleted, restored nofun⟩
  rw [Option.ne_none_iff_isSome]
  decide +kernel

namespace Release.OnManager

/-- The caller of a deletion gives up between the release and its record. -/
def leftBehind : Memory :=
  ((deleteDeployment "web").runFor ⟨1, 0⟩ (fun call => call != 5) single).2

/-- The record that is left behind goes with the next release of that name. -/
theorem deleteDeployment_takes_leftover :
    ∃ memory deployment after after', Reached operations memory ∧
      (∀ home, memory.releases.history? home "web" = none) ∧
      (createDeployment ⟨2, 0⟩ (requestIn "prod")).Runs ⟨2, 0⟩ memory (.ok deployment) after ∧
      (deleteDeployment deployment.id).runInMemory ⟨3, 0⟩ after = (.ok (), after') ∧
      memory.cluster.object? recordKind "prod" (ChartSource.recordName "web") ≠ none ∧
      after'.cluster.object? recordKind "prod" (ChartSource.recordName "web") = none ∧
      after'.cluster.objects ≠ memory.cluster.objects := by
  have made : Reached operations single :=
    Reached.empty.runInMemory ⟨0, 0⟩ (.createDeployment (requestIn "prod"))
  have reached : Reached operations leftBehind :=
    .run ⟨1, 0⟩ (.deleteDeployment "web") made (Program.runs_runFor _ _ _)
  have gone (home : String) : leftBehind.releases.history? home "web" = none := by
    have empty : leftBehind.releases = .empty := rfl
    rw [empty]
    rfl
  have left : leftBehind.cluster.object? recordKind "prod" (ChartSource.recordName "web") ≠ none := by
    rw [Option.ne_none_iff_isSome]
    decide +kernel
  have created : (createDeployment ⟨2, 0⟩ (requestIn "prod")).runInMemory ⟨2, 0⟩ leftBehind =
      (.ok _, _) := rfl
  have run := Program.runs_of_runInMemory created
  have filed := (dated_of_reached reached).toFiled
  obtain ⟨-, after', deleted, -, objects⟩ := deleteDeployment_of_created filed run
    (fun home there => absurd (gone home) there) ⟨3, 0⟩
  have taken : after'.cluster.object? recordKind "prod" (ChartSource.recordName "web") = none := by
    rw [Cluster.Store.object?, objects]
    exact SortedMap.get?_erase_self _ _
  refine ⟨leftBehind, _, _, after', reached, gone, run, deleted, left, taken, fun same => left ?_⟩
  rw [Cluster.Store.object?, ← same]
  exact taken

end Release.OnManager

end DeploymentGateway
