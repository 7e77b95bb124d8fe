import DeploymentGateway.Adapter
import DeploymentGateway.Proofs.Listing
import DeploymentGateway.Proofs.Program.Start
/-!
What listings of deployments are made from. A back end in the cluster finds its deployments in collections of
objects: those of one kind, in one namespace or in all, each of which it reads as a deployment. Applications
and composites are one collection, and the two kinds of reconciled objects are one each.
-/

set_option autoImplicit false

namespace DeploymentGateway

open Cluster

/-- The objects of a kind, in one namespace or in all, and the deployments that they are read as. The name
and the labels of a deployment are those of its object, and its id is made from that name. -/
structure Collection where
  kind : ResourceKind
  home : Option String
  read : Time.Instant → Json → Deployment
  idOf : String → String
  idOf_injective : ∀ name other, idOf name = idOf other → name = other
  id_read : ∀ now object, (read now object).id = idOf (nameOf object)
  name_read : ∀ now object, (read now object).name = nameOf object
  labels_read : ∀ now object, (read now object).labels = labelsOf object
  /-- Only an object without a time of its making is shown with the time of the reading. -/
  dated_read : ∀ now later object, (createdAt object).isSome → read later object = read now object

private theorem getD_congr {time : Option Time.Instant} (now later : Time.Instant) (dated : time.isSome) :
    time.getD later = time.getD now := by
  obtain ⟨own, rfl⟩ := Option.isSome_iff_exists.mp dated
  rfl

theorem Flux.deploymentId_injective (kind : Flux.FluxKind) (name other : String)
    (same : deploymentId kind name = deploymentId kind other) : name = other := by
  simpa [deploymentId, ← String.toList_inj] using same

namespace Collection

def applications (home : String) : Collection where
  kind := Application.kind
  home := some home
  read := Application.toDeployment
  idOf name := name
  idOf_injective _ _ same := same
  id_read _ _ := rfl
  name_read _ _ := rfl
  labels_read _ _ := rfl
  dated_read now later object dated := by
    have created := getD_congr now later dated
    simp only [Application.toDeployment, created]

def composites (kind : ResourceKind) : Collection where
  kind
  home := none
  read := Composite.toDeployment
  idOf name := name
  idOf_injective _ _ same := same
  id_read _ _ := rfl
  name_read _ _ := rfl
  labels_read _ _ := rfl
  dated_read now later object dated := by
    have created := getD_congr now later dated
    simp only [Composite.toDeployment, created]

def reconciled (home : String) (kind : Flux.FluxKind) : Collection where
  kind := kind.resource
  home := some home
  read now := Flux.toDeployment now kind
  idOf := Flux.deploymentId kind
  idOf_injective := Flux.deploymentId_injective kind
  id_read _ _ := rfl
  name_read _ _ := rfl
  labels_read _ _ := rfl
  dated_read now later object dated := by
    have created := getD_congr now later dated
    simp only [Flux.toDeployment, Flux.packageOf, created]

/-- The deployments of a collection whose objects a selector matches. -/
def deployments (collection : Collection) (now : Time.Instant) (store : Store)
    (selector : Option String) : List Deployment :=
  (store.list collection.kind collection.home selector).map (collection.read now)

end Collection

/-- The collections that a back end lists for a filter. -/
inductive Settings.Lists : Settings → Filter → List Collection → Prop
  | argocd (home : String) (filter : Filter) : Lists (.argocd home) filter [.applications home]
  | crossplane (composite : ResourceKind) (filter : Filter) :
    Lists (.crossplane composite) filter [.composites composite]
  | flux (home : String) {filter : Filter} {kinds : List Flux.FluxKind}
    (wanted : Flux.OnCluster.wantedKinds filter = .ok kinds) :
    Lists (.flux home) filter (kinds.map (.reconciled home))

theorem Settings.exists_lists {settings : Settings}
    (inCluster : settings.kind ∈ [.argocd, .crossplane, .flux]) (filter : Filter)
    (known : settings.kind = .flux → ∃ kinds, Flux.OnCluster.wantedKinds filter = .ok kinds) :
    ∃ collections, settings.Lists filter collections := by
  cases settings with
  | argocd home => exact ⟨_, .argocd home filter⟩
  | crossplane composite => exact ⟨_, .crossplane composite filter⟩
  | flux home =>
    obtain ⟨kinds, wanted⟩ := known rfl
    exact ⟨_, .flux home wanted⟩
  | argocdRest baseUrl tokenVariable home timeoutSeconds => simp [Settings.kind] at inCluster
  | helm binary context => simp [Settings.kind] at inCluster

namespace Flux.OnCluster

theorem runInMemory_mapM_objectsOf (home : String) (selector : Option String) (now : Time.Instant)
    (memory : Memory) (kinds : List FluxKind) :
    (kinds.mapM (objectsOf home selector)).runInMemory now memory =
      (.ok (kinds.map fun kind =>
        (memory.cluster.list kind.resource (some home) selector).map fun object =>
          (kind, object)), memory) := by
  induction kinds with
  | nil => rfl
  | cons kind rest ih =>
    have first : (objectsOf home selector kind).runInMemory now memory =
        (.ok ((memory.cluster.list kind.resource (some home) selector).map fun object =>
          (kind, object)), memory) := rfl
    rw [List.mapM_cons, Program.runInMemory_bind, first]
    dsimp only
    rw [Program.runInMemory_bind, ih]
    rfl

theorem runInMemory_allObjects (home : String) (now : Time.Instant) (memory : Memory)
    {filter : Filter} {kinds : List FluxKind} (wanted : wantedKinds filter = .ok kinds) :
    (allObjects home filter).runInMemory now memory =
      (.ok (kinds.flatMap fun kind => (memory.cluster.list kind.resource (some home)
        (Listing.labelSelector filter.labels)).map fun object => (kind, object)), memory) := by
  rw [allObjects, wanted]
  change (kinds.mapM _ >>= fun objects => pure objects.flatten : Program _).runInMemory now memory = _
  rw [Program.runInMemory_bind, runInMemory_mapM_objectsOf, List.flatMap_def]
  rfl

end Flux.OnCluster

/-- A listing is the page of a filter of what is in the collections. -/
theorem Settings.Lists.listDeployments {settings : Settings} {filter : Filter}
    {collections : List Collection} (lists : settings.Lists filter collections) (now : Time.Instant)
    (memory : Memory) :
    ((settings.operations now).listDeployments filter).runInMemory now memory =
      (.ok (Listing.finishDeployments
        (collections.flatMap fun collection =>
          collection.deployments now memory.cluster (Listing.labelSelector filter.labels))
        filter true), memory) := by
  cases lists with
  | argocd home =>
    rw [List.flatMap_singleton]
    rfl
  | crossplane composite =>
    rw [List.flatMap_singleton]
    rfl
  | flux home wanted =>
    change (Flux.OnCluster.allObjects home filter >>= _).runInMemory now memory = _
    rw [Program.runInMemory_bind, Flux.OnCluster.runInMemory_allObjects home now memory wanted]
    simp only [List.flatMap_map, Collection.deployments, Collection.reconciled]
    change (Except.ok (Listing.finishDeployments _ filter true), memory) = _
    rw [List.map_flatMap]
    simp only [List.map_map, Function.comp_def]

/-- The listing of everything has what is in the collections, in its own order. -/
theorem Settings.Lists.listDeployments_everything {settings : Settings}
    {collections : List Collection} (lists : settings.Lists .everything collections)
    (now : Time.Instant) (memory : Memory) :
    ∃ all, ((settings.operations now).listDeployments .everything).runInMemory now memory =
        (.ok all, memory) ∧
      all.Perm (collections.flatMap fun collection =>
        collection.deployments now memory.cluster none) := by
  refine ⟨_, lists.listDeployments now memory, ?_⟩
  rw [Listing.finishDeployments_everything]
  exact List.mergeSort_perm _ _

end DeploymentGateway
