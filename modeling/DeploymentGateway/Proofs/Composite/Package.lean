import DeploymentGateway.Proofs.Cluster.Selector
import DeploymentGateway.Proofs.Footprint
import DeploymentGateway.Proofs.Listing.Catalog
/-!
What is left of a package that was deleted. A configuration is stored under its name, but its id as a package
comes from the reference that it installs; so several configurations can be one package. To delete a package
takes one of them, and the package is gone just if there was no other.
-/

set_option autoImplicit false

namespace DeploymentGateway.Composite

open Cluster

/-- A configuration of a name is the package with an id. -/
def Installs (objects : Objects) (name id : String) : Prop :=
  ∃ configuration, objects.get? (Store.key configurationKind "" name) = some configuration ∧
    packageId configuration = id

/-- No object is in a namespace. -/
def ClusterWide (objects : Objects) : Prop :=
  ∀ key object, objects.get? key = some object → key.namespace = ""

theorem ClusterWide.eq_key {objects : Objects} (wide : ClusterWide objects) {key : ObjectKey}
    {object : Json} (stored : objects.get? key = some object) {kind : ResourceKind}
    (plural : key.plural = kind.plural) : key = Store.key kind "" key.name := by
  obtain ⟨_, space, name⟩ := key
  obtain rfl : _ = kind.plural := plural
  obtain rfl : space = "" := wide _ _ stored
  simp [Store.key]

/-- The operations on composites and packages put no object in a namespace. -/
theorem clusterWide_of_reached {kind : ResourceKind} {memory : Memory}
    (reached : Reached (OnCluster.operations kind) memory) : ClusterWide memory.cluster.objects := by
  induction reached with
  | empty => exact nofun
  | @run memory after now action outcome before run wide =>
    have confined := OnCluster.confined_action before.reachable.named kind now action
    intro key object stored
    by_contra placed
    have away : ¬ (Settings.crossplane kind).Addresses memory action key := by
      intro addressed
      apply placed
      cases addressed with
      | record release => cases release
      | _ => simp [Store.key]
    have unchanged := confined memory outcome after rfl run key away
    exact placed (wide key object (unchanged.symm.trans stored))

section

variable {kind : ResourceKind} {now : Time.Instant} {objects : Objects} {id : String}

/-- A deletion of a package takes one of its configurations, or fails and takes nothing. -/
theorem OnCluster.ensures_deletePackage (named : Named objects) (wide : ClusterWide objects) :
    (deletePackage now id).Ensures .objects now objects fun outcome after =>
      outcome = .ok () → ∃ name, Installs objects name id ∧
        after = objects.erase (Store.key configurationKind "" name) := by
  refine .checkpoint nofun ((ensures_configurationById id).bind ?_ fun _ _ _ => nofun)
  rintro configuration _ ⟨rfl, found⟩
  have first := found configuration rfl
  have same : packageId configuration = id := by simpa using List.find?_some first
  obtain ⟨key, stored, covered⟩ := Store.mem_list_none_iff.mp (List.mem_of_find?_eq_some first)
  have here : key = Store.key configurationKind "" (nameOf configuration) := by
    rw [named key configuration stored]
    exact wide.eq_key stored covered.1
  subst here
  exact .connect nofun (.delete (fun _ => .done nofun) fun _ _ => .done fun _ =>
    ⟨nameOf configuration, ⟨configuration, stored, same⟩, rfl⟩)

end

/-- The packages in the cluster, one for each configuration. -/
def packagesIn (now : Time.Instant) (store : Store) : List Package :=
  (store.list configurationKind none none).map (toPackage now)

theorem packageWith_eq_error_iff {packages : List Package} {id : String} :
    packageWith packages id = .error (.packageNotFound id) ↔ ∀ p ∈ packages, p.id ≠ id := by
  rw [packageWith]
  split
  · rename_i p first
    have same : p.id = id := by simpa using List.find?_some first
    exact iff_of_false (by simp) fun missing => missing p (List.mem_of_find?_eq_some first) same
  · rename_i missing
    simpa using missing

/-- There is no package with an id just if no configuration is it. -/
theorem packageWith_packagesIn_iff (now : Time.Instant) {store : Store} (wide : ClusterWide store.objects)
    {id : String} : packageWith (packagesIn now store) id = .error (.packageNotFound id) ↔
      ∀ name, ¬ Installs store.objects name id := by
  simp only [packageWith_eq_error_iff, packagesIn, List.forall_mem_map, Store.mem_list_none_iff]
  constructor
  · rintro missing name ⟨configuration, stored, same⟩
    exact missing configuration ⟨_, stored, rfl, nofun⟩ same
  · rintro missing configuration ⟨key, stored, covered⟩ same
    rw [wide.eq_key stored covered.1] at stored
    exact missing key.name ⟨configuration, stored, same⟩

/-- To take a configuration leaves what is found for every id but the one of its package. -/
theorem packageWith_packagesIn_erase (now : Time.Instant) {store after : Store} {name id other : String}
    (installs : Installs store.objects name id)
    (erased : after.objects = store.objects.erase (Store.key configurationKind "" name))
    (ne : other ≠ id) :
    packageWith (packagesIn now after) other = packageWith (packagesIn now store) other := by
  obtain ⟨configuration, stored, same⟩ := installs
  have found : (packagesIn now after).find? (fun p => p.id == other) =
      (packagesIn now store).find? fun p => p.id == other := by
    simp only [packagesIn, Store.list_eq, List.find?_map, List.find?_filter]
    rw [← List.head?_filter, ← List.head?_filter, erased, SortedMap.filter_toList_erase fun value found => ?_]
    obtain rfl : configuration = value := Option.some.inj (stored.symm.trans found)
    have differs : (toPackage now configuration).id ≠ other := fun same' => ne (same'.symm.trans same)
    simp [differs]
  rw [packageWith, packageWith, found]

private theorem installs_erase_iff {objects : Objects} {name other id : String} :
    Installs (objects.erase (Store.key configurationKind "" name)) other id ↔
      other ≠ name ∧ Installs objects other id := by
  by_cases same : other = name
  · subst same
    simp [Installs, SortedMap.get?_erase_self]
  · have apart : Store.key configurationKind "" other ≠ Store.key configurationKind "" name := by
      simpa [Store.key] using same
    simp [Installs, SortedMap.get?_erase_of_ne _ apart, same]

/-- In every state that the gateway can get into, a deletion of a package takes one configuration of it. After
that the package is not found any more just if no other configuration is the same package; what is found for
every other id stays the same. -/
theorem getPackage_of_deletePackage {kind : ResourceKind} {now : Time.Instant} {id : String}
    {memory after : Memory} (reached : Reached (OnCluster.operations kind) memory)
    (run : (OnCluster.deletePackage now id).Runs now memory (.ok ()) after) :
    ∃ name, Installs memory.cluster.objects name id ∧
      after.cluster.objects =
        memory.cluster.objects.erase (Store.key configurationKind "" name) ∧
      ∀ later,
        ((OnCluster.getPackage later id).runInMemory later after =
            (.error (.packageNotFound id), after) ↔
          ∀ other, Installs memory.cluster.objects other id → other = name) ∧
        ∀ other, other ≠ id →
          ((OnCluster.getPackage later other).runInMemory later after).1 =
            ((OnCluster.getPackage later other).runInMemory later memory).1 := by
  have wide := clusterWide_of_reached reached
  obtain ⟨name, installs, erased⟩ :=
    OnCluster.ensures_deletePackage reached.reachable.named wide memory _ after rfl run rfl
  change after.cluster.objects = _ at erased
  have wide' : ClusterWide after.cluster.objects := by
    intro key object left
    rw [erased] at left
    exact wide key object (SortedMap.get?_of_get?_erase left)
  have answers (memory : Memory) (later : Time.Instant) (id : String) :
      (OnCluster.getPackage later id).runInMemory later memory =
        (packageWith (packagesIn later memory.cluster) id, memory) :=
    (catalogs later memory kind).getPackage id
  refine ⟨name, installs, erased, fun later => ⟨?_, fun other ne => ?_⟩⟩
  · rw [answers, Prod.mk.injEq, packageWith_packagesIn_iff later wide', erased]
    simp only [installs_erase_iff, and_true, not_and]
    exact forall_congr' fun other => not_imp_not
  · rw [answers, answers]
    exact packageWith_packagesIn_erase later installs erased ne

/-- A package as a configuration of a name. -/
def platformUpload (name : String) : PackageUpload where
  name
  reference := "xpkg.upbound.io/acme/platform:v1.2.0"
  version := none
  extensions := .empty

/-- The id of that package, whatever the configuration is called. -/
def platformId : String :=
  PackageId.derive .crossplanePackage "xpkg.upbound.io/acme/platform:v1.2.0" ""

/-- A kind of composites. -/
def shopKind : ResourceKind :=
  ⟨"platform.example.org", "v1alpha1", "XShop", "xshops", false⟩

/-- The memory after a further upload of the package. -/
def uploading (memory : Memory) (name : String) : Memory :=
  ((OnCluster.uploadPackage ⟨0, 0⟩ (platformUpload name)).runInMemory ⟨0, 0⟩ memory).2

private theorem reached_uploading {memory : Memory} (name : String)
    (reached : Reached (OnCluster.operations shopKind) memory) :
    Reached (OnCluster.operations shopKind) (uploading memory name) :=
  reached.runInMemory ⟨0, 0⟩ (.uploadPackage (platformUpload name))

/-- The memory after a deletion of the package. -/
def deleting (memory : Memory) : Memory :=
  ((OnCluster.deletePackage ⟨1, 0⟩ platformId).runInMemory ⟨1, 0⟩ memory).2

private theorem runs_deleting (memory : Memory)
    (succeeds : ((OnCluster.deletePackage ⟨1, 0⟩ platformId).runInMemory ⟨1, 0⟩ memory).1.isOk = true) :
    (OnCluster.deletePackage ⟨1, 0⟩ platformId).Runs ⟨1, 0⟩ memory (.ok ()) (deleting memory) := by
  have run : (OnCluster.deletePackage ⟨1, 0⟩ platformId).Runs ⟨1, 0⟩ memory _ _ :=
    Program.runs_runInMemory _ memory
  rcases ended : ((OnCluster.deletePackage ⟨1, 0⟩ platformId).runInMemory ⟨1, 0⟩ memory).1 with
    failure | ⟨⟩
  · rw [ended] at succeeds
    cases succeeds
  · rwa [ended] at run

/-- The only configuration of a package is deleted, and the package is gone. -/
theorem getPackage_of_deletePackage_platform :
    Reached (OnCluster.operations shopKind) (uploading .empty "platform") ∧
    (OnCluster.deletePackage ⟨1, 0⟩ platformId).Runs ⟨1, 0⟩ (uploading .empty "platform") (.ok ())
      (deleting (uploading .empty "platform")) ∧
    ∀ later, (OnCluster.getPackage later platformId).runInMemory later
        (deleting (uploading .empty "platform")) =
      (.error (.packageNotFound platformId), deleting (uploading .empty "platform")) := by
  have reached := reached_uploading "platform" .empty
  have run := runs_deleting (uploading .empty "platform") (by decide +kernel)
  have keys : (uploading .empty "platform").cluster.objects.keys =
      [Store.key configurationKind "" "platform"] := by decide +kernel
  have only : ∀ name, Installs (uploading .empty "platform").cluster.objects name platformId →
      name = "platform" := by
    rintro name ⟨configuration, stored, -⟩
    have mem : Store.key configurationKind "" name ∈
        (uploading .empty "platform").cluster.objects.keys :=
      List.mem_map_of_mem (SortedMap.mem_toList_iff.mpr stored)
    rw [keys] at mem
    simpa [Store.key] using mem
  obtain ⟨name, installs, -, answers⟩ := getPackage_of_deletePackage reached run
  refine ⟨reached, run, fun later => (answers later).1.mpr fun other installs' => ?_⟩
  rw [only other installs', only name installs]

/-- A package that was deleted can still be found: another configuration is the same package. -/
theorem deletePackage_leaves_package :
    ∃ memory after id package, Reached (OnCluster.operations shopKind) memory ∧
      (OnCluster.deletePackage ⟨1, 0⟩ id).Runs ⟨1, 0⟩ memory (.ok ()) after ∧
      (OnCluster.getPackage ⟨1, 0⟩ id).runInMemory ⟨1, 0⟩ after = (.ok package, after) := by
  let twice := uploading (uploading .empty "platform") "platform-b"
  have reached : Reached (OnCluster.operations shopKind) twice :=
    reached_uploading _ (reached_uploading _ .empty)
  have run := runs_deleting twice (by decide +kernel)
  have answer : (OnCluster.getPackage ⟨1, 0⟩ platformId).runInMemory ⟨1, 0⟩ (deleting twice) =
      (packageWith (packagesIn ⟨1, 0⟩ (deleting twice).cluster) platformId, deleting twice) :=
    (catalogs _ _ shopKind).getPackage platformId
  obtain ⟨package, found⟩ : ∃ package,
      packageWith (packagesIn ⟨1, 0⟩ (deleting twice).cluster) platformId = .ok package := by
    have there : (packageWith (packagesIn ⟨1, 0⟩ (deleting twice).cluster) platformId).isOk = true := by
      decide +kernel
    rcases ended : packageWith (packagesIn ⟨1, 0⟩ (deleting twice).cluster) platformId with
      failure | package
    · rw [ended] at there
      cases there
    · exact ⟨package, rfl⟩
  exact ⟨twice, _, platformId, package, reached, run, answer.trans (by rw [found])⟩

end DeploymentGateway.Composite
