import DeploymentGateway.Proofs.Cluster.Store
/-!
The stores that the cluster in memory can get into. Every object in one of them has the name it is
stored under, and a version that the store has given out, which no later object will be given again.
-/

set_option autoImplicit false

namespace DeploymentGateway

namespace Text

theorem decimal_injective {m n : Nat} (same : decimal m = decimal n) : m = n := by
  have digits : Nat.toDigits 10 m = Nat.toDigits 10 n := String.ofList_injective same
  rw [← Nat.ofDigitChars_ten_toDigits (n := m), digits, Nat.ofDigitChars_ten_toDigits]

theorem decimal_ne_empty (n : Nat) : decimal n ≠ "" := by
  intro empty
  have digits : Nat.toDigits 10 n = [] := String.ofList_injective empty
  exact Nat.toDigits_ne_nil digits

end Text

namespace Cluster

/-- The object has the version of a number. -/
def Stamped (object : Json) (n : Nat) : Prop :=
  ∃ base : Json, object = base.set (.string (Text.decimal n)) versionPath

namespace Store

/-- The stores that come of the empty one. -/
inductive Reachable : Store → Prop where
  | empty : Reachable .empty
  | seed {store : Store} (kind : ResourceKind) (object : Json) :
    Reachable store → Reachable (store.seed kind object)
  | create {store : Store} (now : Time.Instant) (kind : ResourceKind) («namespace» : String)
    (object : Json) : Reachable store → Reachable (store.create now kind «namespace» object).2
  | update {store : Store} (kind : ResourceKind) («namespace» : String) (object : Json) :
    Reachable store → Reachable (store.update kind «namespace» object).2
  | delete {store : Store} (kind : ResourceKind) («namespace» name : String) :
    Reachable store → Reachable (store.delete kind «namespace» name).2
  | setLogs {store : Store} («namespace» selector : String) (logs : List PodLog) :
    Reachable store → Reachable (store.setLogs «namespace» selector logs)
  | rejectUpdates {store : Store} (kind : ResourceKind) :
    Reachable store → Reachable (store.rejectUpdates kind)

/-- Every object has its name and a version that was given out. -/
structure Sound (store : Store) : Prop where
  named : ∀ key object, store.objects.get? key = some object → key.name ≠ "" →
    nameOf object = key.name
  stamped : ∀ key object, store.objects.get? key = some object →
    ∃ n ≤ store.versions, Stamped object n

theorem stamped_written (store : Store) (object : Json) :
    Stamped (store.written object) (store.versions + 1) :=
  ⟨object, rfl⟩

theorem nameOf_admitted (now : Time.Instant) (kind : ResourceKind) («namespace» : String)
    {object : Json} {name : String} (named : nameOf object = name) (nonempty : name ≠ "") :
    nameOf (admitted now kind «namespace» object) = name := by
  have placed : nameOf (if kind.namespaced then
      object.set (.string «namespace») ["metadata", "namespace"] else object) = name := by
    split
    · exact nameOf_set named nonempty (by simp) _
    · exact named
  refine nameOf_set (nameOf_set (nameOf_set (nameOf_set placed nonempty ?_ _) nonempty ?_ _)
    nonempty ?_ _) nonempty ?_ _
  all_goals simp

namespace Sound

variable {store : Store} (h : Sound store)

include h

theorem write {key : ObjectKey} {object : Json}
    (named : key.name ≠ "" → nameOf object = key.name) : Sound (store.write key object).2 where
  named other found stored nonempty := by
    rcases store.get?_write_cases stored with ⟨rfl, rfl⟩ | old
    · exact nameOf_set (named nonempty) nonempty (by simp) _
    · exact h.named other found old nonempty
  stamped other found stored := by
    rcases store.get?_write_cases stored with ⟨rfl, rfl⟩ | old
    · exact ⟨store.versions + 1, le_rfl, stamped_written store object⟩
    · obtain ⟨n, given, stamped⟩ := h.stamped other found old
      exact ⟨n, given.trans (Nat.le_succ _), stamped⟩

theorem create (now : Time.Instant) (kind : ResourceKind) («namespace» : String) (object : Json) :
    Sound (store.create now kind «namespace» object).2 := by
  rcases store.create_cases now kind «namespace» object with ⟨error, run⟩ | ⟨named, -, run⟩
  · rw [run]
    exact h
  · rw [run]
    exact h.write fun nonempty => nameOf_admitted now kind «namespace» rfl nonempty

theorem update (kind : ResourceKind) («namespace» : String) (object : Json) :
    Sound (store.update kind «namespace» object).2 := by
  rcases store.update_cases kind «namespace» object with ⟨error, run⟩ | ⟨current, -, -, -, run⟩
  · rw [run]
    exact h
  · rw [run]
    exact h.write fun nonempty => nameOf_set rfl nonempty (by simp) _

theorem delete (kind : ResourceKind) («namespace» name : String) :
    Sound (store.delete kind «namespace» name).2 := by
  rcases store.delete_cases kind «namespace» name with ⟨error, run⟩ | run
  · rw [run]
    exact h
  · rw [run]
    constructor
    · intro key object stored
      exact h.named key object (SortedMap.get?_of_get?_erase stored)
    · intro key object stored
      exact h.stamped key object (SortedMap.get?_of_get?_erase stored)

end Sound

/-- Whatever the cluster does, its store stays sound. -/
theorem Reachable.sound {store : Store} (reachable : Reachable store) : Sound store := by
  induction reachable with
  | empty => exact ⟨nofun, nofun⟩
  | seed kind object _ h =>
    refine h.write fun nonempty => ?_
    split
    · rfl
    · exact nameOf_set rfl nonempty (by simp) _
  | create now kind «namespace» object _ h => exact h.create now kind «namespace» object
  | update kind «namespace» object _ h => exact h.update kind «namespace» object
  | delete kind «namespace» name _ h => exact h.delete kind «namespace» name
  | setLogs «namespace» selector logs _ h => exact ⟨h.named, h.stamped⟩
  | rejectUpdates kind _ h => exact ⟨h.named, h.stamped⟩

theorem nameOf_written (store : Store) (object : Json) :
    nameOf (store.written object) = nameOf object :=
  nameOf_set_of_diverges (by simp) _ _

/-- Every object has the name it is stored under, and one that is stored under no name has none. -/
theorem Reachable.nameOf_eq {store : Store} (reachable : Reachable store) {key : ObjectKey}
    {object : Json} (stored : store.objects.get? key = some object) : nameOf object = key.name := by
  induction reachable generalizing key object with
  | empty => cases stored
  | seed kind given _ ih =>
    rcases get?_write_cases _ stored with ⟨rfl, rfl⟩ | old
    · rw [nameOf_written]
      split
      · rfl
      · exact nameOf_set_of_diverges (by simp) _ _
    · exact ih old
  | @create store now kind «namespace» given reachable ih =>
    rcases store.create_cases now kind «namespace» given with ⟨error, run⟩ | ⟨named, -, run⟩
    · rw [run] at stored
      exact ih stored
    · rw [run] at stored
      rcases get?_write_cases _ stored with ⟨rfl, rfl⟩ | old
      · rw [nameOf_written]
        exact nameOf_admitted now kind «namespace» rfl named
      · exact ih old
  | @update store kind «namespace» given reachable ih =>
    rcases store.update_cases kind «namespace» given with ⟨error, run⟩ | ⟨current, -, -, -, run⟩
    · rw [run] at stored
      exact ih stored
    · rw [run] at stored
      rcases get?_write_cases _ stored with ⟨rfl, rfl⟩ | old
      · rw [nameOf_written]
        exact nameOf_set_of_diverges (by simp) _ _
      · exact ih old
  | @delete store kind «namespace» name reachable ih =>
    rcases store.delete_cases kind «namespace» name with ⟨error, run⟩ | run
    · rw [run] at stored
      exact ih stored
    · rw [run] at stored
      exact ih (SortedMap.get?_of_get?_erase stored)
  | setLogs «namespace» selector logs _ ih => exact ih stored
  | rejectUpdates kind _ ih => exact ih stored

end Store

end Cluster

end DeploymentGateway
