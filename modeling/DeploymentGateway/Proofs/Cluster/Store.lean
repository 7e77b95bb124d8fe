import DeploymentGateway.Cluster.Store
import DeploymentGateway.Proofs.Cluster.Object
/-!
What the calls of the cluster in memory do, one law for each way a call can go. A write that succeeds
puts one object in place under a fresh version; a write that fails leaves the cluster as it is.
-/

set_option autoImplicit false

namespace DeploymentGateway.Cluster

namespace Store

/-- What the cluster makes of a new object, before it gives it a version. -/
def admitted (now : Time.Instant) (kind : ResourceKind) («namespace» : String) (object : Json) :
    Json :=
  let placed :=
    if kind.namespaced then object.set (.string «namespace») ["metadata", "namespace"] else object
  (((placed.set (.string kind.apiVersion) ["apiVersion"]).set (.string kind.kind) ["kind"]).set
    (.string now.textWithOffset) ["metadata", "creationTimestamp"]).set (.ofInt 1) generationPath

/-- What the cluster makes of an object that replaces another one, before it gives it a version. -/
def succeeding (current object : Json) : Json :=
  object.set (.ofInt (nextGeneration ((current.intAt generationPath).getD 1))) generationPath

/-- The object that a write puts in place. -/
def written (store : Store) (object : Json) : Json :=
  object.set (.string (Text.decimal (store.versions + 1))) versionPath

variable (store : Store) (now : Time.Instant) (kind : ResourceKind) («namespace» : String)

@[simp]
theorem write_fst (key : ObjectKey) (object : Json) :
    (store.write key object).1 = store.written object :=
  rfl

@[simp]
theorem write_objects (key : ObjectKey) (object : Json) :
    (store.write key object).2.objects = store.objects.insert key (store.written object) :=
  rfl

@[simp]
theorem write_versions (key : ObjectKey) (object : Json) :
    (store.write key object).2.versions = store.versions + 1 :=
  rfl

@[simp]
theorem write_rejectedUpdates (key : ObjectKey) (object : Json) :
    (store.write key object).2.rejectedUpdates = store.rejectedUpdates :=
  rfl

/-- What is in place after a write is what was written, or was in place elsewhere before. -/
theorem get?_write_cases {key other : ObjectKey} {object found : Json}
    (stored : (store.write key object).2.objects.get? other = some found) :
    (other = key ∧ found = store.written object) ∨ store.objects.get? other = some found := by
  rw [write_objects] at stored
  by_cases same : other = key
  · rw [same, SortedMap.get?_insert_self] at stored
    exact .inl ⟨same, (Option.some.inj stored).symm⟩
  · rw [SortedMap.get?_insert_of_ne _ same] at stored
    exact .inr stored

theorem object?_write_of_ne {key : ObjectKey} {name : String}
    (ne : Store.key kind «namespace» name ≠ key) (object : Json) :
    (store.write key object).2.object? kind «namespace» name =
      store.object? kind «namespace» name :=
  SortedMap.get?_insert_of_ne _ ne _

theorem object?_write_self {name : String} (object : Json) :
    (store.write (key kind «namespace» name) object).2.object? kind «namespace» name =
      some (store.written object) :=
  SortedMap.get?_insert_self _ _ _

theorem key_ne_of_plural {kind kind' : ResourceKind} (ne : kind.plural ≠ kind'.plural)
    («namespace» namespace' name name' : String) :
    key kind «namespace» name ≠ key kind' namespace' name' :=
  fun e => ne (congrArg ObjectKey.plural e)

section

variable {object : Json} {name : String} (named : nameOf object = name)

include named

theorem create_nameless (nameless : name = "") :
    store.create now kind «namespace» object =
      (.error (.invalidObject "metadata.name is required"), store) := by
  simp [create, named, nameless]

theorem create_of_present (nonempty : name ≠ "")
    (present : (store.object? kind «namespace» name).isSome) :
    store.create now kind «namespace» object =
      (.error (.conflict (kind.kind ++ " " ++ name ++ " already exists")), store) := by
  have contained : store.objects.contains (key kind «namespace» name) := present
  simp [create, named, nonempty, contained]

theorem create_of_absent (nonempty : name ≠ "")
    (absent : store.object? kind «namespace» name = none) :
    store.create now kind «namespace» object =
      (.ok (store.written (admitted now kind «namespace» object)),
        (store.write (key kind «namespace» name) (admitted now kind «namespace» object)).2) := by
  have free : store.objects.contains (key kind «namespace» name) = false := by
    simpa [SortedMap.contains, object?] using absent
  simp [create, named, nonempty, free, admitted]

theorem update_of_rejected (rejected : kind.plural ∈ store.rejectedUpdates) :
    store.update kind «namespace» object =
      (.error (.conflict (kind.kind ++ " " ++ name ++ " was modified")), store) := by
  simp [update, named, rejected]

theorem update_of_current {current : Json} (accepted : kind.plural ∉ store.rejectedUpdates)
    (present : store.object? kind «namespace» name = some current)
    (same : object.stringAt versionPath = "" ∨
      object.stringAt versionPath = current.stringAt versionPath) :
    store.update kind «namespace» object =
      (.ok (store.written (succeeding current object)),
        (store.write (key kind «namespace» name) (succeeding current object)).2) := by
  rcases same with same | same <;> simp [update, named, accepted, present, same, succeeding]

end

theorem delete_of_present {name : String} (present : (store.object? kind «namespace» name).isSome) :
    store.delete kind «namespace» name =
      (.ok (), { store with objects := store.objects.erase (key kind «namespace» name) }) := by
  have contained : store.objects.contains (key kind «namespace» name) := present
  simp [delete, contained]

theorem delete_of_absent {name : String} (absent : store.object? kind «namespace» name = none) :
    store.delete kind «namespace» name = (.error (.notFound kind.kind name), store) := by
  have free : store.objects.contains (key kind «namespace» name) = false := by
    simpa [SortedMap.contains, object?] using absent
  simp [delete, free]

/-- A creation fails and changes nothing, or puts a new object in place. -/
theorem create_cases (object : Json) :
    (∃ error, store.create now kind «namespace» object = (.error error, store)) ∨
      nameOf object ≠ "" ∧
        store.object? kind «namespace» (nameOf object) = none ∧
        store.create now kind «namespace» object =
          (.ok (store.written (admitted now kind «namespace» object)),
            (store.write (key kind «namespace» (nameOf object))
              (admitted now kind «namespace» object)).2) := by
  by_cases nameless : nameOf object = ""
  · exact .inl ⟨_, create_nameless store now kind _ rfl nameless⟩
  · rcases found : store.object? kind «namespace» (nameOf object) with _ | current
    · exact .inr ⟨nameless, rfl, create_of_absent store now kind _ rfl nameless found⟩
    · exact .inl ⟨_, create_of_present store now kind _ rfl nameless (by rw [found]; rfl)⟩

/-- An update fails and changes nothing, or replaces an object whose version it carries. -/
theorem update_cases (object : Json) :
    (∃ error, store.update kind «namespace» object = (.error error, store)) ∨
      ∃ current, store.object? kind «namespace» (nameOf object) = some current ∧
        kind.plural ∉ store.rejectedUpdates ∧
        (object.stringAt versionPath = "" ∨
          object.stringAt versionPath = current.stringAt versionPath) ∧
        store.update kind «namespace» object =
          (.ok (store.written (succeeding current object)),
            (store.write (key kind «namespace» (nameOf object)) (succeeding current object)).2) := by
  by_cases rejected : kind.plural ∈ store.rejectedUpdates
  · exact .inl ⟨_, update_of_rejected store kind _ rfl rejected⟩
  rcases found : store.object? kind «namespace» (nameOf object) with _ | current
  · left
    simp [update, rejected, found]
  by_cases same : object.stringAt versionPath = "" ∨
      object.stringAt versionPath = current.stringAt versionPath
  · right
    exact ⟨current, rfl, rejected, same, update_of_current store kind _ rfl rejected found same⟩
  · left
    obtain ⟨sent, outdated⟩ := not_or.mp same
    simp [update, rejected, found, sent, outdated]

/-- A removal fails and changes nothing, or takes an object away. -/
theorem delete_cases (name : String) :
    (∃ error, store.delete kind «namespace» name = (.error error, store)) ∨
      store.delete kind «namespace» name =
        (.ok (), { store with objects := store.objects.erase (key kind «namespace» name) }) := by
  rcases found : store.object? kind «namespace» name with _ | current
  · exact .inl ⟨_, delete_of_absent store kind _ found⟩
  · exact .inr (delete_of_present store kind _ (by rw [found]; rfl))

/-- After a deletion the object is not there, whether it was before or not. -/
theorem objects_delete (name : String) :
    (store.delete kind «namespace» name).2.objects =
      store.objects.erase (key kind «namespace» name) := by
  rcases found : store.object? kind «namespace» name with _ | current
  · rw [delete_of_absent store kind _ found]
    exact (SortedMap.erase_of_get?_eq_none found).symm
  · rw [delete_of_present store kind _ (by rw [found]; rfl)]

end Store

end DeploymentGateway.Cluster
