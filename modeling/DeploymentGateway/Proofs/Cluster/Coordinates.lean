import DeploymentGateway.Proofs.Cluster.Selector
import DeploymentGateway.Proofs.Cluster.Succession
import DeploymentGateway.Proofs.Identity.Object
/-!
Where the objects of a store stand, and which versions they have. Objects are stored under keys that are made of
arguments on some calls and of the object on others; in a store that is kept well each object stands where its own
metadata say, so that what is listed can be got. Its versions are numbers that were given out once.
-/

set_option autoImplicit false

namespace DeploymentGateway.Cluster

/-- A write away from the namespace leaves an object its namespace, also where there is none. -/
theorem namespaceOf_set_of_diverges {path : Json.Path}
    (away : Json.Path.Diverges path ["metadata", "namespace"]) (object new : Json) :
    namespaceOf (object.set new path) = namespaceOf object :=
  Json.stringAt_set_of_names away (by decide) object new

/-- The object has the namespace, if those of its kind are in namespaces. -/
def LiesIn (kind : ResourceKind) («namespace» : String) (object : Json) : Prop :=
  kind.namespaced = true → namespaceOf object = «namespace»

/-- Where the metadata of an object say that it stands among those of its kind. -/
def coordinates (kind : ResourceKind) (object : Json) : ObjectKey :=
  Store.key kind (namespaceOf object) (nameOf object)

theorem LiesIn.congr {kind : ResourceKind} {«namespace» : String} {object changed : Json}
    (lies : LiesIn kind «namespace» object) (same : namespaceOf changed = namespaceOf object) :
    LiesIn kind «namespace» changed :=
  fun namespaced => same.trans (lies namespaced)

theorem LiesIn.coordinates_eq {kind : ResourceKind} {«namespace» : String} {object : Json}
    (lies : LiesIn kind «namespace» object) :
    coordinates kind object = Store.key kind «namespace» (nameOf object) := by
  unfold coordinates Store.key
  split
  · rename_i namespaced
    rw [lies namespaced]
  · rfl

theorem coordinates_congr {kind : ResourceKind} {a b : Json} (same : SameIdentity a b) :
    coordinates kind a = coordinates kind b := by
  rw [coordinates, coordinates, same.nameOf_eq, same.namespaceOf_eq]

namespace Store

theorem namespaceOf_admitted (now : Time.Instant) {kind : ResourceKind} (namespaced : kind.namespaced = true)
    («namespace» : String) (object : Json) :
    namespaceOf (admitted now kind «namespace» object) = «namespace» := by
  rw [admitted, namespaceOf_set_of_diverges (by simp), namespaceOf_set_of_diverges (by simp),
    namespaceOf_set_of_diverges (by simp), namespaceOf_set_of_diverges (by simp), if_pos namespaced]
  exact Json.stringAt_set_self _ _ _

/-- What is put in place is written at its coordinates, at most with a date. -/
theorem exists_seed_eq (store : Store) (kind : ResourceKind) (object : Json) :
    ∃ dated, coordinates kind dated = coordinates kind object ∧
      store.seed kind object = (store.write (coordinates kind object) dated).2 := by
  unfold seed
  dsimp only
  split
  · exact ⟨object, rfl, rfl⟩
  · have same : SameIdentity (object.set (.string "2024-01-01T00:00:00Z") ["metadata", "creationTimestamp"]) object :=
      SameIdentity.set (by simp [identityPaths]) object _
    exact ⟨_, coordinates_congr same, rfl⟩

/-- The store is kept well: each of its objects is of one of some kinds and stands at its coordinates, with a version
that was given out and that no other object has. -/
structure WellKept (kinds : List ResourceKind) (store : Store) : Prop where
  own : ∀ key object, store.objects.get? key = some object → ∃ kind ∈ kinds, key = coordinates kind object
  given : ∀ key object, store.objects.get? key = some object →
    ∃ n, 0 < n ∧ n ≤ store.versions ∧ Stamped object n
  single : ∀ key object other found n, store.objects.get? key = some object →
    store.objects.get? other = some found → Stamped object n → Stamped found n → key = other

namespace WellKept

variable {kinds : List ResourceKind} {store : Store}

theorem of_empty (kinds : List ResourceKind) (empty : store.objects = .empty) : WellKept kinds store := by
  have none (key : ObjectKey) : store.objects.get? key = none := by
    rw [empty]
    rfl
  constructor <;> simp [none]

variable (kept : WellKept kinds store)

include kept

theorem write {kind : ResourceKind} (known : kind ∈ kinds) (object : Json) :
    WellKept kinds (store.write (coordinates kind object) object).2 where
  own key found stored := by
    rcases store.get?_write_cases stored with ⟨rfl, rfl⟩ | old
    · exact ⟨kind, known, (coordinates_congr (sameIdentity_written store object)).symm⟩
    · exact kept.own key found old
  given key found stored := by
    rcases store.get?_write_cases stored with ⟨rfl, rfl⟩ | old
    · exact ⟨store.versions + 1, Nat.succ_pos _, le_rfl, stamped_written store object⟩
    · obtain ⟨n, positive, atMost, stamped⟩ := kept.given key found old
      exact ⟨n, positive, atMost.trans (Nat.le_succ _), stamped⟩
  single key found other found' n stored stored' stamped stamped' := by
    -- The version that is given out now is beyond those of all objects that were there before.
    have fresh {key : ObjectKey} {old : Json} (there : store.objects.get? key = some old) :
        ¬ Stamped old (store.versions + 1) := fun new => by
      obtain ⟨m, -, atMost, stamped⟩ := kept.given key old there
      have := stamped.unique new
      omega
    have new := stamped_written store object
    rcases store.get?_write_cases stored with ⟨rfl, rfl⟩ | old <;>
      rcases store.get?_write_cases stored' with ⟨rfl, rfl⟩ | old'
    · rfl
    · exact absurd ((stamped.unique new) ▸ stamped') (fresh old')
    · exact absurd ((stamped'.unique new) ▸ stamped) (fresh old)
    · exact kept.single key found other found' n old old' stamped stamped'

theorem seed {kind : ResourceKind} (known : kind ∈ kinds) (object : Json) :
    WellKept kinds (store.seed kind object) := by
  obtain ⟨dated, same, run⟩ := store.exists_seed_eq kind object
  rw [run, ← same]
  exact kept.write known dated

theorem create {kind : ResourceKind} (known : kind ∈ kinds) (now : Time.Instant) («namespace» : String)
    (object : Json) : WellKept kinds (store.create now kind «namespace» object).2 := by
  rcases store.create_cases now kind «namespace» object with ⟨error, run⟩ | ⟨named, -, run⟩
  · rw [run]
    exact kept
  · have lies : LiesIn kind «namespace» (admitted now kind «namespace» object) :=
      fun namespaced => namespaceOf_admitted now namespaced «namespace» object
    have there := lies.coordinates_eq
    rw [nameOf_admitted now kind «namespace» rfl named] at there
    rw [run, ← there]
    exact kept.write known _

theorem update {kind : ResourceKind} (known : kind ∈ kinds) {«namespace» : String} {object : Json}
    (lies : LiesIn kind «namespace» object) : WellKept kinds (store.update kind «namespace» object).2 := by
  rcases store.update_cases kind «namespace» object with ⟨error, run⟩ | ⟨current, -, -, -, run⟩
  · rw [run]
    exact kept
  · have there := (coordinates_congr (sameIdentity_succeeding current object)).trans lies.coordinates_eq
    rw [run, ← there]
    exact kept.write known _

theorem delete (kind : ResourceKind) («namespace» name : String) :
    WellKept kinds (store.delete kind «namespace» name).2 := by
  rcases store.delete_cases kind «namespace» name with ⟨error, run⟩ | run
  · rw [run]
    exact kept
  · rw [run]
    have before {key : ObjectKey} {object : Json}
        (left : (store.objects.erase (Store.key kind «namespace» name)).get? key = some object) :
        store.objects.get? key = some object := SortedMap.get?_of_get?_erase left
    exact ⟨fun key object left => kept.own key object (before left),
      fun key object left => kept.given key object (before left),
      fun key object other found n left left' => kept.single key object other found n (before left) (before left')⟩

/-! What follows for those who read the store. -/

variable (distinct : (kinds.map ResourceKind.plural).Nodup) {kind : ResourceKind} (known : kind ∈ kinds)

include distinct known

/-- An object that is stored for a kind stands at its coordinates among those of the kind. -/
theorem eq_coordinates {key : ObjectKey} {object : Json} (stored : store.objects.get? key = some object)
    (mine : key.plural = kind.plural) : key = coordinates kind object := by
  obtain ⟨other, mem, rfl⟩ := kept.own key object stored
  have same : other = kind := List.inj_on_of_nodup_map distinct mem known mine
  rw [same]

theorem liesIn_of_get {«namespace» name : String} {object : Json}
    (got : store.get kind «namespace» name = .ok object) : LiesIn kind «namespace» object := by
  intro namespaced
  rcases found : store.object? kind «namespace» name with _ | current
  · simp [Store.get, found] at got
  · obtain rfl : current = object := by simpa [Store.get, found] using got
    have there := congrArg ObjectKey.namespace (kept.eq_coordinates distinct known found rfl)
    simpa [coordinates, Store.key, namespaced] using there.symm

/-- What is listed can be got where it says that it stands. -/
theorem get_of_mem_list {home selector : Option String} {object : Json}
    (mem : object ∈ store.list kind home selector) :
    store.get kind (namespaceOf object) (nameOf object) = .ok object := by
  obtain ⟨key, stored, mine⟩ : ∃ key, store.objects.get? key = some object ∧ key.plural = kind.plural := by
    simp only [Store.list, List.mem_filter, List.mem_map, Prod.exists, exists_eq_right] at mem
    obtain ⟨⟨key, there, belongs⟩, -⟩ := mem
    simp only [Bool.and_eq_true, beq_iff_eq] at belongs
    exact ⟨key, SortedMap.mem_toList_iff.mp there, belongs.1⟩
  rw [kept.eq_coordinates distinct known stored mine] at stored
  have found : store.object? kind (namespaceOf object) (nameOf object) = some object := stored
  simp [Store.get, found]

/-- No two listed objects stand at the same coordinates. -/
theorem nodup_coordinates_list (home selector : Option String) :
    ((store.list kind home selector).map (coordinates kind)).Nodup := by
  refine List.pairwise_map.mpr (.filter _ (List.pairwise_map.mpr ?_))
  refine (store.objects.sorted.filter _).imp_of_mem fun {a b} memA memB before same => ?_
  have at_key {entry : ObjectKey × Json} (there : entry ∈ store.objects.toList)
      (mine : entry.1.plural = kind.plural) : entry.1 = coordinates kind entry.2 :=
    kept.eq_coordinates distinct known (SortedMap.mem_toList_iff.mp there) mine
  simp only [List.mem_filter, Bool.and_eq_true, beq_iff_eq] at memA memB
  have one_key : a.1 = b.1 := by rw [at_key memA.1 memA.2.1, same, at_key memB.1 memB.2.1]
  exact OrderedKey.before_irrefl _ (one_key ▸ before)

end WellKept

end Store

end DeploymentGateway.Cluster
