import DeploymentGateway.Proofs.Flux.Pin
/-!
What a failed rollback of a kustomization leaves behind. For a caller who waits until the end the repair
puts the reference of the repository right in every case, and nothing is left of the rollback but the
marks of writes. But one who gives up after the pin leaves the pin behind.
-/

set_option autoImplicit false

namespace DeploymentGateway.Flux.OnCluster

open Cluster

/-- The places at which the cluster and a request to reconcile leave their marks. -/
def markedPlaces : List Json.Path :=
  [generationPath, versionPath, ["metadata", "annotations"]]

/-! What a pin and its repair make of a repository. -/

section

variable {now : Time.Instant} {store : Store} {repository new : Json}

private theorem refPath_names :
    ∀ segment ∈ refPath, Text.readNatural? Json.greatestIndex segment = none := by
  decide

theorem lookup_ref_placed (store : Store) (repository new : Json) :
    (placed store repository new).lookup refPath = new.lookup refPath := by
  rw [placed, Store.written, Store.succeeding, Json.lookup_set_of_names (by simp) refPath_names,
    Json.lookup_set_of_names (by simp) refPath_names]

private theorem lookup_ref_requestReconcile (object : Json) :
    (requestReconcile now object).lookup refPath = object.lookup refPath :=
  Json.lookup_set_of_names (by simp [requestedAt]) refPath_names _ _

private theorem above_pair {a b : String} {above : Json.Path} (onWay : above <+: [a, b])
    (ne : above ≠ [a, b]) : above = [] ∨ above = [a] := by
  rcases above with _ | ⟨first, _ | ⟨second, rest⟩⟩ <;> simp_all

/-- The repair gives back the reference that it was told, also where there was none. -/
theorem lookup_ref_repaired (now : Time.Instant) (repository : Json) (before : Option Json) :
    (repaired now repository before).lookup refPath = before := by
  cases before with
  | some reference => rw [repaired, lookup_ref_requestReconcile, Json.lookup_set_self]
  | none =>
    rw [repaired, lookup_ref_requestReconcile,
      Json.lookup_remove_self (List.cons_ne_nil _ _) refPath_names]

/-- The places that a rollback writes to in a repository. -/
private abbrev touched : List Json.Path :=
  refPath :: markedPlaces

private theorem touched_apart :
    ∀ place ∈ touched, ∀ other ∈ touched, other <+: place → other = place := by
  decide

private theorem hasPlaces_touched {n : Nat} (stamped : Stamped repository n)
    (spec : repository.HasObject ["spec"]) : Json.HasPlaces touched repository := by
  obtain ⟨base, rfl⟩ := stamped
  have root : (base.set (.string (Text.decimal n)) versionPath).HasObject [] :=
    Json.hasObject_set List.nil_prefix (by simp) _ _
  have metadata : (base.set (.string (Text.decimal n)) versionPath).HasObject ["metadata"] :=
    Json.hasObject_set (by simp) (by simp) _ _
  intro place mem above onWay ne
  simp only [touched, markedPlaces, List.mem_cons, List.not_mem_nil, or_false] at mem
  rcases mem with rfl | rfl | rfl | rfl <;> rcases above_pair onWay ne with rfl | rfl <;> assumption

variable (stands : Json.HasPlaces touched repository)

include stands

private theorem sameBut_requestReconcile (now : Time.Instant) :
    Json.SameBut touched repository (requestReconcile now repository) :=
  Json.SameBut.set ["metadata", "annotations"] (by simp [markedPlaces]) stands _ _

private theorem sameBut_placed (store : Store) (same : Json.SameBut touched repository new) :
    Json.SameBut touched repository (placed store repository new) := by
  have stands' := same.hasPlaces stands touched_apart
  have generation := Json.SameBut.set generationPath (by simp [markedPlaces]) stands'
    (.ofInt (Store.nextGeneration ((repository.intAt generationPath).getD 1))) []
  have version := Json.SameBut.set versionPath (by simp [markedPlaces])
    (generation.hasPlaces stands' touched_apart) (.string (Text.decimal (store.versions + 1))) []
  exact (same.trans generation).trans version

private theorem sameBut_pinned (now : Time.Instant) (commit : String) :
    Json.SameBut touched repository (pinned now repository commit) := by
  have ref := Json.SameBut.set refPath (by simp) stands (.string commit) ["commit"]
  exact ref.trans (sameBut_requestReconcile (ref.hasPlaces stands touched_apart) now)

private theorem sameBut_repaired (now : Time.Instant) (before : Option Json) :
    Json.SameBut touched repository (repaired now repository before) := by
  cases before with
  | some reference =>
    have ref := Json.SameBut.set refPath (by simp) stands reference []
    exact ref.trans (sameBut_requestReconcile (ref.hasPlaces stands touched_apart) now)
  | none =>
    have ref := Json.SameBut.remove refPath (by simp) stands
    exact ref.trans (sameBut_requestReconcile (ref.hasPlaces stands touched_apart) now)

end

/-! What is left of a rollback that failed. -/

theorem IsKustomization.unique {home id : String} {store : Store} {object object' : Json}
    (found : IsKustomization home id store object) (found' : IsKustomization home id store object') :
    object = object' := by
  obtain ⟨kind, name, parsed, -, present⟩ := found
  obtain ⟨kind', name', parsed', -, present'⟩ := found'
  rw [parsed] at parsed'
  cases parsed'
  exact Option.some.inj (present.symm.trans present')

/-- The reference that the repository of a kustomization has, if both are there. -/
def ref? (object : Json) (store : Store) : Option Json :=
  (store.objects.get? (repositoryKey object)).bind fun repository => repository.lookup refPath

/-- Nothing but the repository of a kustomization is changed, and that only where the cluster and
requests to reconcile leave their marks. -/
structure Repaired (object : Json) (before after : Store) : Prop where
  source : (sourceRef .kustomization object).kind = gitRepositoryKind.kind
  others : ∀ key, key ≠ repositoryKey object → after.objects.get? key = before.objects.get? key
  repository : ∃ repository left, before.objects.get? (repositoryKey object) = some repository ∧
    after.objects.get? (repositoryKey object) = some left ∧
    left.lookup refPath = repository.lookup refPath ∧
    (repository.HasObject ["spec"] → Json.SameBut markedPlaces repository left)

section

variable {home id commit : String} {now : Time.Instant} {waits : Nat → Bool} {revision : Int64}
  {memory after : Memory} {object repository : Json} {failure : Failure}

/-- The memory after a pin. -/
def pinnedMemory (now : Time.Instant) (memory : Memory) (object repository : Json)
    (commit : String) : Memory :=
  ⟨updated memory.cluster object repository (pinned now repository commit), memory.releases⟩

/-- The memory after a pin and its repair. -/
def repairedMemory (now : Time.Instant) (memory : Memory) (object repository : Json)
    (commit : String) : Memory :=
  let store := updated memory.cluster object repository (pinned now repository commit)
  let current := placed memory.cluster repository (pinned now repository commit)
  ⟨updated store object current (repaired now current (repository.lookup refPath)), memory.releases⟩

/-- How a rollback ends that comes to its pin. -/
theorem Pins.run (now : Time.Instant) (waits : Nat → Bool)
    (pins : Pins home id revision memory.cluster object repository commit)
    (reachable : memory.cluster.Reachable)
    (waiting : waits 0 = true ∧ waits 1 = true ∧ waits 3 = true) :
    let run := (rollbackDeployment home now id revision).runFor now waits memory
    let pinned := pinnedMemory now memory object repository commit
    let repaired := repairedMemory now memory object repository commit
    if waits 6 = false then run = (.error .cancelled, if waits 7 then repaired else pinned)
    else if kustomizationKind.plural ∈ memory.cluster.rejectedUpdates then
      run = (.error (rejectedFailure object), if waits 8 then repaired else pinned)
    else ∃ deployment, run.1 = .ok deployment := by
  obtain ⟨kind, name, parsed, notHelm, present⟩ := pins.found
  have apart : Store.key kustomizationKind home (nameOf object) ≠ repositoryKey object :=
    Store.key_ne_of_plural (by decide) _ _ _ _
  have stays : (updated memory.cluster object repository
      (pinned now repository commit)).object? kustomizationKind home (nameOf object) =
        some object := by
    rw [Store.object?, updated_get?_of_ne _ _ _ _ apart, reachable.nameOf_eq present]
    exact present
  have has := (pins.hasRepository reachable).updated (nameOf_pinned now repository commit)
  have settled := runFor_settle now (fun n => waits (n + 6))
    (pinnedMemory now memory object repository commit) (repository.lookup refPath) has stays
  intro run
  rw [show run = _ from runFor_rollbackDeployment now pins reachable waiting]
  exact settled

/-- After the repair only the marks on the repository are left. -/
theorem Pins.repaired (now : Time.Instant)
    (pins : Pins home id revision memory.cluster object repository commit)
    (reachable : memory.cluster.Reachable) :
    Repaired object memory.cluster
      (repairedMemory now memory object repository commit).cluster where
  source := pins.source
  others key ne := by
    rw [repairedMemory, updated_get?_of_ne _ _ _ _ ne, updated_get?_of_ne _ _ _ _ ne]
  repository := by
    have alike : (placed (updated memory.cluster object repository (pinned now repository commit))
        (placed memory.cluster repository (pinned now repository commit))
        (OnCluster.repaired now (placed memory.cluster repository (pinned now repository commit))
          (repository.lookup refPath))).lookup refPath = repository.lookup refPath := by
      rw [lookup_ref_placed, lookup_ref_repaired]
    refine ⟨repository, _, pins.present, updated_get?_self _ _ _ _, alike, fun spec => ?_⟩
    obtain ⟨n, -, stamped⟩ := reachable.sound.stamped _ _ pins.present
    have stands := hasPlaces_touched stamped spec
    have pin := sameBut_placed stands memory.cluster (sameBut_pinned stands now commit)
    have stands' := pin.hasPlaces stands touched_apart
    exact (pin.trans (sameBut_placed stands' _ (sameBut_repaired stands' now _))).drop alike.symm

/-- A rollback of a kustomization that fails for a caller who always waits has changed nothing, or else
nothing but the marks on the repository, whose reference reads as before. -/
theorem rollbackDeployment_error (reachable : memory.cluster.Reachable)
    (found : IsKustomization home id memory.cluster object)
    (failed : (rollbackDeployment home now id revision).runInMemory now memory =
      (.error failure, after)) :
    after = memory ∨
      after.releases = memory.releases ∧ Repaired object memory.cluster after.cluster := by
  rw [← Program.runFor_waiting] at failed
  rcases rollbackDeployment_error_cases now failed with same | ⟨object', repository, commit, pins, -⟩
  · exact .inl same
  obtain rfl := found.unique pins.found
  have run := pins.run now (fun _ => true) reachable ⟨rfl, rfl, rfl⟩
  simp only [failed] at run
  split at run
  · contradiction
  split at run
  · cases run
    exact .inr ⟨rfl, pins.repaired now reachable⟩
  · obtain ⟨deployment, ended⟩ := run
    cases ended

end

/-- A repository that follows a branch. -/
def branchRepository : Json :=
  .ofPairs [
    ("metadata", newMetadata "web" "flux-system" (.object [])),
    ("spec", .ofPairs [("ref", .ofPairs [("branch", .string "main")])])]

/-- A kustomization that was applied from that repository. -/
def appliedKustomization : Json :=
  .ofPairs [
    ("metadata", newMetadata "web" "flux-system" (.object [])),
    ("spec", .ofPairs [("sourceRef",
      .ofPairs [("kind", .string "GitRepository"), ("name", .string "web")])]),
    ("status", .ofPairs [("lastAppliedRevision", .string "main@sha1:abc123")])]

/-- A memory with both. -/
def writable : Memory :=
  ⟨(Store.empty.seed gitRepositoryKind branchRepository).seed kustomizationKind
    appliedKustomization, .empty⟩

/-- The same memory, but no kustomization can be written. -/
def writeProtected : Memory :=
  ⟨writable.cluster.rejectUpdates kustomizationKind, .empty⟩

private theorem writeProtected_reachable : writeProtected.cluster.Reachable :=
  .rejectUpdates _ (.seed _ _ (.seed _ _ .empty))

/-- The kustomization as it is stored. -/
def storedKustomization : Json :=
  (writable.cluster.object? kustomizationKind "flux-system" "web").getD .null

private theorem writeProtected_found :
    IsKustomization "flux-system" "web" writeProtected.cluster storedKustomization :=
  ⟨none, "web", rfl, nofun, rfl⟩

/-- The rollback pins the repository, cannot write the kustomization and gives the reference back. -/
theorem rollbackDeployment_error_writeProtected :
    let run := (rollbackDeployment "flux-system" ⟨0, 0⟩ "web" 0).runInMemory ⟨0, 0⟩ writeProtected
    run.1 = .error (rejectedFailure storedKustomization) ∧
      run.2.cluster.versions = writeProtected.cluster.versions + 2 ∧
      Repaired storedKustomization writeProtected.cluster run.2.cluster := by
  intro run
  have failed : run = (.error (rejectedFailure storedKustomization), run.2) := rfl
  have written : run.2.cluster.versions = writeProtected.cluster.versions + 2 := by decide
  refine ⟨rfl, written, ?_⟩
  rcases rollbackDeployment_error writeProtected_reachable writeProtected_found failed with
    same | ⟨-, repaired⟩
  · rw [same] at written
    exact absurd written (by simp)
  · exact repaired

section

variable {home id commit : String} {now : Time.Instant} {waits : Nat → Bool} {revision : Int64}
  {memory after : Memory} {object repository : Json} {failure : Failure}

/-- A caller who gives up before a call leaves the pin behind: one comes to it, it changes the reference,
and the caller gives up before the kustomization is written, or before the repair of one that cannot
be written. -/
def Strands (home : String) (now : Time.Instant) (id : String) (revision : Int64) (n : Nat)
    (store : Store) (object : Json) : Prop :=
  ∃ repository commit, Pins home id revision store object repository commit ∧
    (pinned now repository commit).lookup refPath ≠ repository.lookup refPath ∧
    (4 ≤ n ∧ n ≤ 6 ∨ kustomizationKind.plural ∈ store.rejectedUpdates ∧ 7 ≤ n ∧ n ≤ 8)

theorem ref?_pinnedMemory : ref? object (pinnedMemory now memory object repository commit).cluster =
    (pinned now repository commit).lookup refPath := by
  rw [ref?, pinnedMemory, updated_get?_self, Option.bind_some, lookup_ref_placed]

theorem Repaired.ref? {before after : Store} (repaired : Repaired object before after) :
    ref? object after = ref? object before := by
  obtain ⟨repository, left, present, present', alike, -⟩ := repaired.repository
  rw [OnCluster.ref?, OnCluster.ref?, present, present', Option.bind_some, Option.bind_some, alike]

private theorem Pins.strands_iff {n : Nat} {store : Store}
    (pins : Pins home id revision store object repository commit) :
    Strands home now id revision n store object ↔
      (pinned now repository commit).lookup refPath ≠ repository.lookup refPath ∧
        (4 ≤ n ∧ n ≤ 6 ∨ kustomizationKind.plural ∈ store.rejectedUpdates ∧ 7 ≤ n ∧ n ≤ 8) := by
  refine ⟨?_, fun strands => ⟨repository, commit, pins, strands⟩⟩
  rintro ⟨repository', commit', pins', strands⟩
  obtain rfl := Option.some.inj (pins.present.symm.trans pins'.present)
  obtain rfl := Option.some.inj (pins.commit.symm.trans pins'.commit)
  exact strands

/-- A rollback of a kustomization that fails for a caller who gives up before some call leaves the
repository its reference, unless it leaves the pin behind. -/
theorem ref?_of_rollbackDeployment_error {n : Nat} (reachable : memory.cluster.Reachable)
    (found : IsKustomization home id memory.cluster object)
    (failed : (rollbackDeployment home now id revision).runFor now (fun k => decide (k < n)) memory =
      (.error failure, after)) :
    ref? object after.cluster = ref? object memory.cluster ↔
      ¬ Strands home now id revision n memory.cluster object := by
  by_cases pinnable : ∃ repository commit,
      Pins home id revision memory.cluster object repository commit ∧ 4 ≤ n
  · obtain ⟨repository, commit, pins, late⟩ := pinnable
    have before : ref? object memory.cluster = repository.lookup refPath := by
      rw [ref?, repositoryKey, show memory.cluster.objects.get? _ = _ from pins.present]
      rfl
    have repaired := (pins.repaired now reachable).ref?
    have run := pins.run now (fun k => decide (k < n)) reachable
      ⟨decide_eq_true (by omega), decide_eq_true (by omega), decide_eq_true (by omega)⟩
    simp only [failed, decide_eq_false_iff_not, decide_eq_true_eq] at run
    rw [pins.strands_iff]
    split at run
    · -- The caller has given up before the kustomization is written, so also before the repair.
      rename_i early
      rw [if_neg (by omega)] at run
      cases run
      have stranding : 4 ≤ n ∧ n ≤ 6 := ⟨late, by omega⟩
      simp [ref?_pinnedMemory, before, stranding]
    split at run
    · rename_i written rejected
      split at run
      · cases run
        have kept : ¬ (4 ≤ n ∧ n ≤ 6 ∨ kustomizationKind.plural ∈ memory.cluster.rejectedUpdates ∧
          7 ≤ n ∧ n ≤ 8) := by omega
        simp [repaired, kept]
      · cases run
        have stranding : 7 ≤ n ∧ n ≤ 8 := by omega
        simp [ref?_pinnedMemory, before, stranding, rejected]
    · obtain ⟨deployment, ended⟩ := run
      cases ended
  · have spared : ¬ Strands home now id revision n memory.cluster object := by
      rintro ⟨repository, commit, pins, -, when⟩
      exact pinnable ⟨repository, commit, pins, by omega⟩
    rcases rollbackDeployment_error_cases now failed with
      rfl | ⟨object', repository, commit, pins, -, -, third⟩
    · simp [spared]
    · obtain rfl := found.unique pins.found
      exact absurd ⟨repository, commit, pins, of_decide_eq_true third⟩ pinnable

end

/-- A caller who gives up after the repair has been asked for finds the reference as it was. -/
theorem ref?_of_rollbackDeployment_error_writeProtected :
    let run := (rollbackDeployment "flux-system" ⟨0, 0⟩ "web" 0).runFor ⟨0, 0⟩
      (fun k => decide (k < 9)) writeProtected
    run.1 = .error (rejectedFailure storedKustomization) ∧
      ref? storedKustomization run.2.cluster = ref? storedKustomization writeProtected.cluster := by
  intro run
  have failed : run = (.error (rejectedFailure storedKustomization), run.2) := rfl
  refine ⟨rfl, (ref?_of_rollbackDeployment_error writeProtected_reachable writeProtected_found
    failed).mpr ?_⟩
  rintro ⟨repository, commit, -, -, early⟩
  omega

/-- A caller who gives up after the pin gets a failure, and the repository stays pinned. -/
theorem rollbackDeployment_cancelled_changes_ref :
    ∃ failure after, (rollbackDeployment "flux-system" ⟨0, 0⟩ "web" 0).runFor ⟨0, 0⟩
        (fun k => decide (k < 6)) writable = (.error failure, after) ∧
      ref? storedKustomization after.cluster ≠ ref? storedKustomization writable.cluster := by
  refine ⟨.cancelled, _, rfl, fun same => ?_⟩
  have commits := congrArg (fun ref => (ref.bind fun ref => ref.string?At ["commit"]).isSome) same
  exact absurd commits (by decide)

end DeploymentGateway.Flux.OnCluster
