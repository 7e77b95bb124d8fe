import DeploymentGateway.Proofs.Release.Filing
/-!
Histories of releases that are in order. Each revision carries the namespace and the name of its release and
is numbered by its place, and just the last one is deployed. One more revision that is deployed leaves a
history so, since it is given the next number and those before it are superseded.
-/

set_option autoImplicit false

namespace DeploymentGateway.Release

/-- The revisions belong to one release and are numbered from one on, and just the last is deployed. -/
structure InOrder (home name : String) (history : List ReleaseRevision) : Prop where
  own : ∀ revision ∈ history, revision.name = name ∧ revision.namespace = home
  numbered : history.map (fun revision => revision.revision) =
    (List.range' 1 history.length).map Int64.ofNat
  last : ∀ revision ∈ history.getLast?, revision.status = .deployed
  earlier : ∀ revision ∈ history.dropLast, revision.status = .superseded

/-- A history as a release has it. -/
structure WellFormed (home name : String) (history : List ReleaseRevision) : Prop
    extends InOrder home name history where
  nonempty : history ≠ []

/-! One more revision of a history. -/

@[simp]
theorem Store.supersede_revision (revision : ReleaseRevision) :
    (supersede revision).revision = revision.revision := by
  unfold supersede
  split <;> rfl

variable {home name : String} {history : List ReleaseRevision}

theorem inOrder_nil : InOrder home name [] :=
  ⟨nofun, rfl, nofun, nofun⟩

/-- The number of a last revision is how many there are. -/
theorem InOrder.revision_last (h : InOrder home name history) {last : ReleaseRevision}
    (ends : history.getLast? = some last) : last.revision = Int64.ofNat history.length := by
  obtain ⟨before, rfl⟩ := List.getLast?_eq_some_iff.mp ends
  have numbers := congrArg List.getLast? h.numbered
  simpa [List.range'_1_concat, Nat.add_comm] using numbers

/-- Of revisions in order, all have been superseded once one more follows. -/
theorem InOrder.status_supersede (h : InOrder home name history) {revision : ReleaseRevision}
    (mem : revision ∈ history) : (Store.supersede revision).status = .superseded := by
  have nonempty : history ≠ [] := List.ne_nil_of_mem mem
  rw [← List.dropLast_append_getLast nonempty, List.mem_append] at mem
  unfold Store.supersede
  rcases mem with before | ending
  · have status := h.earlier revision before
    rw [if_neg (by rw [status]; decide)]
    exact status
  · have same := List.mem_singleton.mp ending
    have ends : history.getLast? = some revision := by
      rw [same, List.getLast?_eq_some_getLast nonempty]
    rw [if_pos (h.last revision ends)]

theorem InOrder.wellFormed_append (h : InOrder home name history) {next : ReleaseRevision}
    (own : next.name = name ∧ next.namespace = home)
    (number : next.revision = Int64.ofNat (history.length + 1)) (deployed : next.status = .deployed) :
    WellFormed home name (history.map Store.supersede ++ [next]) where
  own revision mem := by
    rcases List.mem_append.mp mem with old | new
    · obtain ⟨older, before, rfl⟩ := List.mem_map.mp old
      rw [Store.supersede_name, Store.supersede_namespace]
      exact h.own older before
    · rw [List.mem_singleton.mp new]
      exact own
  numbered := by
    have before : (history.map Store.supersede).map (fun revision => revision.revision) =
        history.map fun revision => revision.revision := by
      simp
    rw [List.map_append, before, h.numbered, List.length_append, List.length_map, List.length_singleton,
      List.range'_1_concat, List.map_append, List.map_singleton, List.map_singleton, number,
      Nat.add_comm 1]
  last revision ends := by
    rw [List.getLast?_concat] at ends
    cases ends
    exact deployed
  earlier revision mem := by
    rw [List.dropLast_concat] at mem
    obtain ⟨older, before, rfl⟩ := List.mem_map.mp mem
    exact h.status_supersede before
  nonempty := by simp

/-! The histories of a manager. -/

namespace Store

variable {store after : Store}

/-- The history of every release is well formed. -/
def Orderly (store : Store) : Prop :=
  ∀ home name history, store.history? home name = some history → WellFormed home name history

/-- A release is given one more revision, which is deployed. -/
def Adds (store : Store) (home name : String) (after : Store) : Prop :=
  ∃ next, next.namespace = home ∧ next.name = name ∧ next.status = .deployed ∧
    after = (store.push next).2

theorem orderly_empty : Orderly empty :=
  nofun

theorem Orderly.filed (h : Orderly store) : Filed store where
  nonempty home name history found := (h home name history found).nonempty
  own home name history found := (h home name history found).own

/-- The revisions of a release are in order, though there may be none. -/
theorem Orderly.inOrder_getD (h : Orderly store) (home name : String) :
    InOrder home name ((store.history? home name).getD []) := by
  rcases found : store.history? home name with _ | history
  · exact inOrder_nil
  · exact (h home name history found).toInOrder

theorem Adds.history?_self (adds : store.Adds home name after) :
    ∃ history, after.history? home name = some history ∧
      history.length = ((store.history? home name).getD []).length + 1 := by
  obtain ⟨next, rfl, rfl, -, rfl⟩ := adds
  exact ⟨_, store.history?_push_self next, by simp⟩

theorem Adds.history?_of_ne (adds : store.Adds home name after) {home' name' : String}
    (other : ¬ (home' = home ∧ name' = name)) :
    after.history? home' name' = store.history? home' name' := by
  obtain ⟨next, rfl, rfl, -, rfl⟩ := adds
  exact store.history?_push_of_ne other

theorem Orderly.adds (h : Orderly store) (adds : store.Adds home name after) : Orderly after := by
  intro home' name' history' found
  by_cases here : home' = home ∧ name' = name
  · obtain ⟨rfl, rfl⟩ := here
    obtain ⟨next, rfl, rfl, deployed, rfl⟩ := adds
    rw [history?_push_self] at found
    cases found
    refine (h.inOrder_getD next.namespace next.name).wellFormed_append ⟨rfl, rfl⟩ ?_ deployed
    simp [push]
  · rw [adds.history?_of_ne here] at found
    exact h home' name' history' found

/-- Fewer releases are as well formed. -/
theorem Orderly.of_subset (h : Orderly store)
    (there : ∀ home name history, after.history? home name = some history →
      store.history? home name = some history) : Orderly after :=
  fun home name history found => h home name history (there home name history found)

end Store

end DeploymentGateway.Release
