import Mathlib.Data.List.Nodup
import DeploymentGateway.Proofs.Cluster.Selector
import DeploymentGateway.Proofs.Identity.Cluster
import DeploymentGateway.Proofs.Listing.Collection
/-!
What is listed is what is read. A back end in the cluster looks an id up under its own kind and namespace, and
the object that is kept there has that name. So every deployment that is listed from there is told of by its
id, in all the ways that a back end tells of a deployment. Composites are listed from all namespaces but looked
up under none, as they belong to the whole cluster: one that is kept in a namespace is listed, but no id finds
it.
-/

set_option autoImplicit false

namespace DeploymentGateway

open Cluster Rules

/-! The names in a listing. -/

namespace Cluster.Store

/-- The store keeps an object under a key that a listing covers. -/
def Shows (store : Store) (kind : ResourceKind) (home : Option String) (key : ObjectKey) : Prop :=
  (store.objects.get? key).isSome ∧ Covers kind home key

/-- The names that are listed are distinct just if no two keys that the listing shows have the same. -/
theorem nodup_names_iff {store : Store} (named : Named store.objects) (kind : ResourceKind)
    (home : Option String) : ((store.list kind home none).map nameOf).Nodup ↔
      ∀ key, store.Shows kind home key → ∀ other, store.Shows kind home other →
        key.name = other.name → key = other := by
  let entries := store.objects.toList.filter fun entry => Covers kind home entry.1
  have distinct : (entries.map Prod.fst).Nodup := by
    refine List.pairwise_map.mpr ((store.objects.sorted.sublist List.filter_sublist).imp ?_)
    intro first second before same
    rw [same] at before
    exact OrderedKey.before_irrefl _ before
  have names : (store.list kind home none).map nameOf =
      (entries.map Prod.fst).map fun key => key.name := by
    rw [list_eq, List.map_map, List.map_map]
    refine List.map_congr_left fun entry mem => ?_
    have stored := SortedMap.mem_toList_iff.mp (List.mem_filter.mp mem).1
    exact named entry.1 entry.2 stored
  have mem_keys (key : ObjectKey) : key ∈ entries.map Prod.fst ↔ store.Shows kind home key := by
    simp [entries, Shows, SortedMap.mem_toList_iff, Option.isSome_iff_exists]
  rw [names, List.nodup_map_iff_inj_on distinct]
  simp only [mem_keys]

/-- In one namespace a listing covers one key for each name. -/
theorem Covers.eq_key {kind : ResourceKind} {home : String} {key : ObjectKey}
    (covers : Covers kind (some home) key) (namespaced : kind.namespaced = true) :
    key = Store.key kind home key.name := by
  obtain ⟨plural, space, name⟩ := key
  obtain ⟨rfl, here⟩ := covers
  obtain rfl := here namespaced home rfl
  simp [Store.key, namespaced]

theorem nodup_names {store : Store} (named : Named store.objects) {kind : ResourceKind}
    (namespaced : kind.namespaced = true) (home : String) :
    ((store.list kind (some home) none).map nameOf).Nodup := by
  refine (nodup_names_iff named kind (some home)).mpr fun key shown other shown' same => ?_
  rw [shown.2.eq_key namespaced, shown'.2.eq_key namespaced, same]

end Cluster.Store

/-! What a back end tells of an id. -/

/-- What a back end tells of the id of a deployment, in all the ways it has, is that deployment. -/
structure Settings.Tells (settings : Settings) (now : Time.Instant) (memory : Memory)
    (d : Deployment) : Prop where
  deployment : ((settings.operations now).getDeployment d.id).runInMemory now memory =
    (.ok d, memory)
  status : ∃ status, ((settings.operations now).deploymentStatus d.id).runInMemory now memory =
    (.ok status, memory) ∧ status.id = d.id ∧ status.status = d.status ∧
      status.message = d.description
  history : ∃ history, ((settings.operations now).deploymentHistory d.id).runInMemory now memory =
    (.ok history, memory) ∧ history.deploymentId = d.id

section

variable {memory : Memory} {now : Time.Instant} {object : Json}

private theorem runInMemory_show {α β : Type} {read : Program α} {a : α}
    (run : read.runInMemory now memory = (.ok a, memory)) (result : α → β) :
    (Program.checkpoint >>= fun _ => read >>= fun a => pure (result a)).runInMemory now memory =
      (.ok (result a), memory) := by
  change (read >>= fun a => pure (result a)).runInMemory now memory = _
  rw [Program.runInMemory_bind, run]
  rfl

theorem Application.tells {home : String} (checked : checkName "id" (nameOf object) = .ok ())
    (stored : memory.cluster.objects.get? (Store.key kind home (nameOf object)) = some object) :
    (Settings.argocd home).Tells now memory (toDeployment now object) := by
  have read (operation : String) :
      (OnCluster.application home operation (nameOf object)).runInMemory now memory =
        (.ok object, memory) := by
    simp [OnCluster.application, checked, Store.get, Store.object?, stored]
  exact
    { deployment := runInMemory_show (read "get") (toDeployment now)
      status := ⟨_, runInMemory_show (read "status") (toStatus now), rfl, rfl, rfl⟩
      history := ⟨_, runInMemory_show (read "history") (toHistory now), rfl⟩ }

theorem Composite.tells {kind : ResourceKind} (checked : checkName "id" (nameOf object) = .ok ())
    (stored : memory.cluster.objects.get? (Store.key kind "" (nameOf object)) = some object) :
    (Settings.crossplane kind).Tells now memory (toDeployment now object) := by
  have read (operation : String) :
      (OnCluster.composite kind operation (nameOf object)).runInMemory now memory =
        (.ok object, memory) := by
    simp [OnCluster.composite, checked, Store.get, Store.object?, stored]
  exact
    { deployment := runInMemory_show (read "get") (toDeployment now)
      status := ⟨_, runInMemory_show (read "status") (toStatus now (nameOf object)), rfl, rfl, rfl⟩
      history := ⟨_, runInMemory_show (read "history") (toHistory now (nameOf object)), rfl⟩ }

namespace Flux

/-- The id of a deployment is read as its kind and its name. -/
theorem parseId_deploymentId {name : String} (checked : checkName "id" name = .ok ())
    (kind : FluxKind) : parseId (deploymentId kind name) = .ok (some kind, name) := by
  have cut : Text.cutFirst? ':' (deploymentId kind name) = some (kind.word, name) :=
    Text.cutFirst?_append (by cases kind <;> simp [FluxKind.word]) name
  have known : FluxKind.ofWord? kind.word = some kind := by cases kind <;> decide
  simp only [parseId, cut, known]
  change (checkName "id" name >>= fun _ => _) = _
  rw [checked]
  rfl

theorem addressed_deploymentId {home name : String} {objects : Objects} {kind : FluxKind}
    (checked : checkName "id" name = .ok ())
    (stored : objects.get? (Store.key kind.resource home name) = some object) :
    Addressed home (deploymentId kind name) objects kind object :=
  ⟨some kind, name, parseId_deploymentId checked kind, by simp [fluxKinds, stored], stored⟩

theorem tells {home : String} {kind : FluxKind} (checked : checkName "id" (nameOf object) = .ok ())
    (stored : memory.cluster.objects.get? (Store.key kind.resource home (nameOf object)) =
      some object) :
    (Settings.flux home).Tells now memory (toDeployment now kind object) := by
  have read (operation : String) :
      (OnCluster.resolve home operation (deploymentId kind (nameOf object))).runInMemory now memory =
        (.ok (kind, object), memory) :=
    resolve_of_addressed operation (addressed_deploymentId checked stored)
  exact
    { deployment := runInMemory_show (read "get") fun found => toDeployment now found.1 found.2
      status := ⟨_, runInMemory_show (read "status") fun found => toStatus now found.1 found.2, rfl,
        rfl, rfl⟩
      history := ⟨_, runInMemory_show (read "history") fun found => toHistory now found.1 found.2,
        rfl⟩ }

end Flux

end

/-! Listings of everything. -/

namespace Collection

variable {collection : Collection} {now : Time.Instant} {store : Store} {d : Deployment}

theorem mem_deployments_iff : d ∈ collection.deployments now store none ↔
    ∃ key object, store.objects.get? key = some object ∧
      Store.Covers collection.kind collection.home key ∧ collection.read now object = d := by
  simp only [deployments, List.mem_map, Store.mem_list_none_iff]
  grind

theorem nodup_ids_iff : ((collection.deployments now store none).map Deployment.id).Nodup ↔
    ((store.list collection.kind collection.home none).map nameOf).Nodup := by
  have ids : (collection.deployments now store none).map Deployment.id =
      ((store.list collection.kind collection.home none).map nameOf).map collection.idOf := by
    simp only [deployments, List.map_map, Function.comp_def, collection.id_read]
  rw [ids, List.nodup_map_iff fun name other => collection.idOf_injective name other]

end Collection

/-- An object is shown as before at the same instant, or if it has a time of its making. -/
theorem Collection.read_eq (collection : Collection) {now later : Time.Instant} (object : Json)
    (dated : later = now ∨ (createdAt object).isSome) :
    collection.read now object = collection.read later object := by
  rcases dated with rfl | dated
  · rfl
  · exact (collection.dated_read now later object dated).symm

theorem Collection.stored_of_mem {collection : Collection} {now : Time.Instant} {store : Store}
    {d : Deployment} {home : String} (named : Named store.objects)
    (namespaced : collection.kind.namespaced = true) (inHome : collection.home = some home)
    (mem : d ∈ collection.deployments now store none) :
    ∃ object, store.objects.get? (Store.key collection.kind home (nameOf object)) = some object ∧
      Store.Covers collection.kind collection.home (Store.key collection.kind home (nameOf object)) ∧
      collection.read now object = d := by
  obtain ⟨key, object, stored, covers, read⟩ := mem_deployments_iff.mp mem
  have own : key = Store.key collection.kind home (nameOf object) := by
    rw [named key object stored]
    exact (inHome ▸ covers).eq_key namespaced
  exact ⟨object, own ▸ stored, own ▸ covers, read⟩

/-- The ids of reconciled objects are distinct, as the kind is a part of them. -/
theorem Flux.nodup_ids {store : Store} (named : Named store.objects) (home : String)
    (now : Time.Instant) :
    (((FluxKind.all.map (Collection.reconciled home)).flatMap fun collection =>
      collection.deployments now store none).map Deployment.id).Nodup := by
  have ids (kind : FluxKind) :
      (((Collection.reconciled home kind).deployments now store none).map Deployment.id).Nodup :=
    Collection.nodup_ids_iff.mpr (Store.nodup_names named (by cases kind <;> rfl) home)
  have apart (kind : FluxKind) (id : String)
      (mem : id ∈ ((Collection.reconciled home kind).deployments now store none).map Deployment.id) :
      ∃ name, id = deploymentId kind name := by
    obtain ⟨d, listed, rfl⟩ := List.mem_map.mp mem
    obtain ⟨object, -, rfl⟩ := List.mem_map.mp listed
    exact ⟨nameOf object, rfl⟩
  simp only [FluxKind.all, List.map_cons, List.map_nil, List.flatMap_cons, List.flatMap_nil,
    List.append_nil, List.map_append]
  -- The two kinds have ids of their own, as the word for the kind comes first in each.
  refine List.nodup_append.mpr ⟨ids .kustomization, ids .helmRelease, fun id mem other mem' same => ?_⟩
  obtain ⟨name, rfl⟩ := apart .kustomization id mem
  obtain ⟨name', rfl⟩ := apart .helmRelease other mem'
  simp [deploymentId, FluxKind.word, ← String.toList_inj] at same

/-- A deployment is that of an object which belongs to the whole cluster, where the objects of the back end
do. -/
def Settings.Unscoped (settings : Settings) (now : Time.Instant) (objects : Objects)
    (d : Deployment) : Prop :=
  ∀ kind, settings = .crossplane kind → ∃ object,
    objects.get? ⟨kind.plural, "", nameOf object⟩ = some object ∧ Composite.toDeployment now object = d

/-- A deployment has a time of its making: the object that is listed as it has one. -/
def Settings.Dated (settings : Settings) (now : Time.Instant) (objects : Objects) (d : Deployment) : Prop :=
  ∀ collections, settings.Lists .everything collections → ∀ collection ∈ collections, ∀ key object,
    objects.get? key = some object → Store.Covers collection.kind collection.home key →
      collection.read now object = d → (createdAt object).isSome

/-- No name is used for two objects that the back end lists from all namespaces. -/
def Settings.SoleNames (settings : Settings) (store : Store) : Prop :=
  ∀ kind, settings = .crossplane kind → ∀ key, store.Shows kind none key →
    ∀ other, store.Shows kind none other → key.name = other.name → key = other

namespace Settings.Lists

variable {settings : Settings} {collections : List Collection} {memory : Memory} {now : Time.Instant}
  (lists : settings.Lists .everything collections) (named : Named memory.cluster.objects)

include lists named

/-- A back end tells of what is in its collections. -/
theorem tells {d : Deployment} (mem : d ∈ collections.flatMap fun collection =>
      collection.deployments now memory.cluster none)
    (checked : checkName "id" d.name = .ok ()) (unscoped : settings.Unscoped now memory.cluster.objects d)
    {later : Time.Instant} (dated : later = now ∨ settings.Dated now memory.cluster.objects d) :
    settings.Tells later memory d := by
  have own {collection : Collection} (listed : collection ∈ collections) {key : ObjectKey} {object : Json}
      (stored : memory.cluster.objects.get? key = some object)
      (covers : Store.Covers collection.kind collection.home key) (read : collection.read now object = d) :
      later = now ∨ (createdAt object).isSome :=
    dated.imp_right fun dated => dated collections lists collection listed key object stored covers read
  cases lists with
  | argocd home =>
    rw [List.flatMap_singleton] at mem
    obtain ⟨object, stored, covers, rfl⟩ := (Collection.applications home).stored_of_mem named rfl rfl mem
    rw [(Collection.applications home).read_eq object (own List.mem_cons_self stored covers rfl)]
    exact Application.tells checked stored
  | crossplane kind =>
    obtain ⟨object, stored, rfl⟩ := unscoped kind rfl
    have covers : Store.Covers kind none ⟨kind.plural, "", nameOf object⟩ := ⟨rfl, fun _ => nofun⟩
    have again : Composite.toDeployment now object = Composite.toDeployment later object :=
      (Collection.composites kind).read_eq object (own List.mem_cons_self stored covers rfl)
    rw [again]
    refine Composite.tells checked ?_
    rw [Store.key, ite_self]
    exact stored
  | flux home _ =>
    rw [List.flatMap_map] at mem
    obtain ⟨kind, wanted, mem⟩ := List.mem_flatMap.mp mem
    obtain ⟨object, stored, covers, rfl⟩ := (Collection.reconciled home kind).stored_of_mem named
      (by cases kind <;> rfl) rfl mem
    rw [(Collection.reconciled home kind).read_eq object
      (own (List.mem_map_of_mem wanted) stored covers rfl)]
    exact Flux.tells checked stored

theorem nodup_ids_iff : ((collections.flatMap fun collection =>
      collection.deployments now memory.cluster none).map Deployment.id).Nodup ↔
    settings.SoleNames memory.cluster := by
  cases lists with
  | argocd home =>
    rw [List.flatMap_singleton, Collection.nodup_ids_iff]
    exact ⟨fun _ => nofun, fun _ => Cluster.Store.nodup_names named rfl home⟩
  | crossplane kind =>
    rw [List.flatMap_singleton, Collection.nodup_ids_iff, Cluster.Store.nodup_names_iff named]
    constructor
    · rintro sole _ ⟨⟩
      exact sole
    · intro sole
      exact sole kind rfl
  | flux home wanted =>
    cases wanted
    exact ⟨fun _ => nofun, fun _ => Flux.nodup_ids named home now⟩

end Settings.Lists

/-- A back end in the cluster lists all deployments, and tells by its id of every one that has a proper name:
as long as it is that of an object kept where ids are looked up, which only composites need not be. It does
so at every later instant, except that an object without a time of its making is shown with the time of the
reading. The ids in the listing are distinct unless composites of one name are kept in two namespaces. -/
theorem tells_of_listed {settings : Settings}
    (inCluster : settings.kind ∈ [.argocd, .crossplane, .flux]) {memory : Memory}
    (reachable : memory.cluster.Reachable) (now : Time.Instant) :
    ∃ all, ((settings.operations now).listDeployments .everything).runInMemory now memory =
        (.ok all, memory) ∧
      (∀ d ∈ all, checkName "id" d.name = .ok () →
        settings.Unscoped now memory.cluster.objects d →
          ∀ later, later = now ∨ settings.Dated now memory.cluster.objects d →
            settings.Tells later memory d) ∧
      ((all.map Deployment.id).Nodup ↔ settings.SoleNames memory.cluster) := by
  obtain ⟨collections, lists⟩ := Settings.exists_lists inCluster .everything fun _ => ⟨_, rfl⟩
  obtain ⟨all, run, same⟩ := lists.listDeployments_everything now memory
  refine ⟨all, run, fun d mem checked unscoped later dated => ?_, ?_⟩
  · exact lists.tells reachable.named (same.mem_iff.mp mem) checked unscoped dated
  · rw [(same.map Deployment.id).nodup_iff]
    exact lists.nodup_ids_iff reachable.named

/-- An object of the name "web" in a namespace. -/
def webIn («namespace» : String) : Json :=
  .ofPairs [("metadata", .ofPairs [("name", .string "web"), ("namespace", .string «namespace»)])]

/-- A cluster with a kustomization and a helm release of one name. -/
def pairedMemory : Memory where
  cluster := (Store.empty.seed Flux.kustomizationKind (webIn "flux-system")).seed
    Flux.helmReleaseKind (webIn "flux-system")
  releases := .empty

theorem tells_of_listed_paired :
    pairedMemory.cluster.Reachable ∧
    ∃ all, (((Settings.flux "flux-system").operations ⟨1, 0⟩).listDeployments
        .everything).runInMemory ⟨1, 0⟩ pairedMemory = (.ok all, pairedMemory) ∧
      (∀ d ∈ all, checkName "id" d.name = .ok () →
        (Settings.flux "flux-system").Unscoped ⟨1, 0⟩ pairedMemory.cluster.objects d →
          ∀ later, later = ⟨1, 0⟩ ∨ (Settings.flux "flux-system").Dated ⟨1, 0⟩ pairedMemory.cluster.objects d →
            (Settings.flux "flux-system").Tells later pairedMemory d) ∧
      ((all.map Deployment.id).Nodup ↔
        (Settings.flux "flux-system").SoleNames pairedMemory.cluster) := by
  have reachable : pairedMemory.cluster.Reachable := .seed _ _ (.seed _ _ .empty)
  have inCluster : (Settings.flux "flux-system").kind ∈ [.argocd, .crossplane, .flux] := by decide
  exact ⟨reachable, tells_of_listed inCluster reachable ⟨1, 0⟩⟩

/-- The kind of composites, and a kind of the same plural whose objects are kept in namespaces. -/
def wholeKind : ResourceKind :=
  ⟨"platform.example.org", "v1alpha1", "XApp", "xapps", false⟩

def placedKind : ResourceKind :=
  { wholeKind with namespaced := true }

/-- A cluster with such an object in each of two namespaces. -/
def placedMemory : Memory where
  cluster := (Store.empty.seed placedKind (webIn "prod")).seed placedKind (webIn "staging")
  releases := .empty

/-- Objects that are kept in namespaces are listed as composites, under one id for both of them, and that id
finds none. -/
theorem listed_composites_not_told :
    ∃ all, placedMemory.cluster.Reachable ∧
      (((Settings.crossplane wholeKind).operations ⟨1, 0⟩).listDeployments
        .everything).runInMemory ⟨1, 0⟩ placedMemory = (.ok all, placedMemory) ∧
      (∃ d ∈ all, checkName "id" d.name = .ok () ∧
        (((Settings.crossplane wholeKind).operations ⟨1, 0⟩).getDeployment d.id).runInMemory ⟨1, 0⟩
          placedMemory = (.error (.deploymentNotFound "web"), placedMemory)) ∧
      ¬ (all.map Deployment.id).Nodup := by
  have reachable : placedMemory.cluster.Reachable := .seed _ _ (.seed _ _ .empty)
  obtain ⟨all, run, same⟩ := (Settings.Lists.crossplane wholeKind .everything).listDeployments_everything
    ⟨1, 0⟩ placedMemory
  rw [List.flatMap_singleton] at same
  have ids : (all.map Deployment.id).Perm ["web", "web"] := same.map Deployment.id
  obtain ⟨d, mem, id⟩ := List.mem_map.mp (ids.mem_iff.mpr List.mem_cons_self)
  obtain ⟨object, -, rfl⟩ := List.mem_map.mp (same.mem_iff.mp mem)
  have name : nameOf object = "web" := id
  refine ⟨all, reachable, run, ⟨_, mem, ?_, ?_⟩, ?_⟩
  · change checkName "id" (nameOf object) = _
    rw [name]
    rfl
  · rw [id]
    rfl
  · rw [ids.nodup_iff]
    decide

end DeploymentGateway
