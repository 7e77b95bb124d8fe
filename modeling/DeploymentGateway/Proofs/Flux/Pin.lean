import DeploymentGateway.Proofs.Cluster.Reachable
import DeploymentGateway.Proofs.Json.Difference
import DeploymentGateway.Proofs.Rewrite.Operation
/-!
The way of a rollback of a kustomization. Its repository is pinned to a commit first and the kustomization
written after that; when the second write fails, the repository gets its reference back. The caller is
asked again both before the second write and before the repair.
-/

set_option autoImplicit false

namespace DeploymentGateway.Flux.OnCluster

open Cluster

/-- Where a repository says what is to be taken from it. -/
abbrev refPath : Json.Path := ["spec", "ref"]

/-- An id means a kustomization that is there. -/
def IsKustomization (home id : String) (store : Store) (object : Json) : Prop :=
  ∃ kind name, parseId id = .ok (kind, name) ∧ kind ≠ some .helmRelease ∧
    store.object? kustomizationKind home name = some object

/-- An id means a kustomization just in case a search for it ends in that kustomization. -/
theorem resolve_eq_kustomization_iff {home operation id : String} {now : Time.Instant}
    {memory : Memory} {object : Json} :
    (resolve home operation id).runInMemory now memory = (.ok (.kustomization, object), memory) ↔
      IsKustomization home id memory.cluster object := by
  rcases parsed : parseId id with failure | ⟨kind, name⟩
  · simp [resolve, IsKustomization, parsed]
  rcases present : memory.cluster.object? kustomizationKind home name with _ | found <;>
    rcases released : memory.cluster.object? helmReleaseKind home name with _ | release <;>
    rcases kind with _ | _ | _ <;>
    simp [resolve, IsKustomization, parsed, present, firstOf, FluxKind.all, FluxKind.resource,
      Store.get, released]

/-- A rollback comes so far that it pins a repository to a commit. -/
structure Pins (home id : String) (revision : Int64) (store : Store) (object repository : Json)
    (commit : String) : Prop where
  found : IsKustomization home id store object
  last : revision = 0
  commit : commitOf (object.stringAt ["status", "lastAppliedRevision"]) = some commit
  source : (sourceRef .kustomization object).kind = gitRepositoryKind.kind
  present : store.object? gitRepositoryKind (sourceRef .kustomization object).namespace
    (sourceRef .kustomization object).name = some repository
  accepted : gitRepositoryKind.plural ∉ store.rejectedUpdates

section

variable (home : String) (now : Time.Instant)

/-- A repository as a pin sends it. -/
def pinned (repository : Json) (commit : String) : Json :=
  requestReconcile now (repository.set (.string commit) ["spec", "ref", "commit"])

/-- A repository with a reference given back, as the repair sends it. -/
def repaired (repository : Json) : Option Json → Json
  | some reference => requestReconcile now (repository.set reference refPath)
  | none => requestReconcile now (repository.remove refPath).1

/-- How a rollback goes on after its pin. -/
def settle (object : Json) (pin : Pin) : Program Deployment := do
  match ← (write home now "rollback" .kustomization (requestReconcile now object)).attempt with
  | .ok deployment => return deployment
  | .error failure =>
    let _ ← (restoreSource now pin).attempt
    .fail failure

end

/-- A kustomization goes back to the revision that was applied last, or not at all. -/
theorem rollbackKustomization_eq (home : String) (now : Time.Instant) (id : String)
    (revision : Int64) (object : Json) :
    Operation.rollbackKustomization now home id revision object =
      if object.stringAt ["status", "lastAppliedRevision"] = "" then
        .fail (.revisionNotFound id revision 0)
      else if revision = 0 then
        pinSource now id object (object.stringAt ["status", "lastAppliedRevision"]) >>=
          settle home now object
      else .fail (.revisionNotFound id revision 1) := by
  by_cases none : object.stringAt ["status", "lastAppliedRevision"] = ""
  · have outside : ¬ (0 ≤ revision.toInt ∧ revision.toInt < 0) := by omega
    simp [Operation.rollbackKustomization, revisionsOf, Listing.historyIndex, outside, none]
  by_cases last : revision = 0
  · have first : Listing.historyIndex id revision 1 = .ok 0 := by rw [last]; rfl
    simp [Operation.rollbackKustomization, revisionsOf, none, last ▸ first, last]
    rfl
  · have outside : ¬ (0 ≤ revision.toInt ∧ revision.toInt < 1) := by
      intro inside
      have zero : revision.toInt = (0 : Int64).toInt := by simp; omega
      exact last (Int64.toInt_inj.mp zero)
    simp [Operation.rollbackKustomization, revisionsOf, Listing.historyIndex, outside, none, last]

/-! A pin and its repair leave a repository its name and its version. -/

section

variable (now : Time.Instant) (repository : Json)

theorem nameOf_requestReconcile : nameOf (requestReconcile now repository) = nameOf repository :=
  nameOf_set_of_diverges (by simp [requestedAt]) _ _

theorem version_requestReconcile :
    (requestReconcile now repository).stringAt versionPath = repository.stringAt versionPath :=
  version_set_of_diverges (by simp [requestedAt]) _ _

theorem nameOf_pinned (commit : String) :
    nameOf (pinned now repository commit) = nameOf repository := by
  rw [pinned, nameOf_requestReconcile, nameOf_set_of_diverges (by simp)]

theorem version_pinned (commit : String) :
    (pinned now repository commit).stringAt versionPath = repository.stringAt versionPath := by
  rw [pinned, version_requestReconcile, version_set_of_diverges (by simp)]

theorem nameOf_repaired (reference : Option Json) :
    nameOf (repaired now repository reference) = nameOf repository := by
  cases reference with
  | some reference => rw [repaired, nameOf_requestReconcile, nameOf_set_of_diverges (by simp)]
  | none =>
    rw [repaired, nameOf_requestReconcile, nameOf, Json.stringAt, Json.string?At,
      Json.lookup_remove_of_diverges (by simp)]
    rfl

theorem version_repaired (reference : Option Json) :
    (repaired now repository reference).stringAt versionPath = repository.stringAt versionPath := by
  cases reference with
  | some reference => rw [repaired, version_requestReconcile, version_set_of_diverges (by simp)]
  | none =>
    rw [repaired, version_requestReconcile, Json.stringAt, Json.string?At,
      Json.lookup_remove_of_diverges (by simp)]
    rfl

end

/-! The stores that a rollback goes through. -/

section

variable (now : Time.Instant)

/-- The key of the repository of a kustomization. -/
def repositoryKey (object : Json) : ObjectKey :=
  let source := sourceRef .kustomization object
  Store.key gitRepositoryKind source.namespace source.name

/-- A store in which the repository of a kustomization has been updated. -/
def updated (store : Store) (object repository new : Json) : Store :=
  (store.write (repositoryKey object) (Store.succeeding repository new)).2

/-- The repository that is in place after that. -/
def placed (store : Store) (repository new : Json) : Json :=
  store.written (Store.succeeding repository new)

theorem updated_get?_self (store : Store) (object repository new : Json) :
    (updated store object repository new).objects.get? (repositoryKey object) =
      some (placed store repository new) :=
  SortedMap.get?_insert_self _ _ _

theorem updated_get?_of_ne (store : Store) (object repository new : Json) {key : ObjectKey}
    (ne : key ≠ repositoryKey object) :
    (updated store object repository new).objects.get? key = store.objects.get? key :=
  SortedMap.get?_insert_of_ne _ ne _

variable {home : String} {waits : Nat → Bool} {memory : Memory} {object repository : Json}

/-- The repository of a kustomization is there, under the version that it has itself. -/
structure HasRepository (store : Store) (object repository : Json) : Prop where
  present : store.object? gitRepositoryKind (sourceRef .kustomization object).namespace
    (sourceRef .kustomization object).name = some repository
  named : nameOf repository = (sourceRef .kustomization object).name
  accepted : gitRepositoryKind.plural ∉ store.rejectedUpdates

theorem HasRepository.update {store : Store} (has : HasRepository store object repository)
    {new : Json} (named : nameOf new = nameOf repository)
    (same : new.stringAt versionPath = repository.stringAt versionPath) :
    store.update gitRepositoryKind (sourceRef .kustomization object).namespace new =
      (.ok (placed store repository new), updated store object repository new) :=
  Store.update_of_current store _ _ (named.trans has.named) has.accepted has.present (.inr same)

theorem HasRepository.updated {store : Store} (has : HasRepository store object repository)
    {new : Json} (named : nameOf new = nameOf repository) :
    HasRepository (updated store object repository new) object (placed store repository new) where
  present := updated_get?_self store object repository new
  named := by
    rw [placed, Store.nameOf_written, Store.succeeding, nameOf_set_of_diverges (by simp), named,
      has.named]
  accepted := has.accepted

/-- The repair goes through for a caller who still waits. -/
theorem runFor_restoreSource (waits : Nat → Bool) (failure : Failure) (before : Option Json)
    (has : HasRepository memory.cluster object repository) :
    (do
      let source := sourceRef .kustomization object
      let _ ← (restoreSource now ⟨source.namespace, source.name, before⟩).attempt
      Program.fail failure : Program Deployment).runFor now waits memory =
      (.error failure,
        if waits 0 then
          ⟨updated memory.cluster object repository (repaired now repository before),
            memory.releases⟩
        else memory) := by
  have accepted := has.update (nameOf_repaired now repository before)
    (version_repaired now repository before)
  have present := has.present
  rcases waiting : waits 0 with _ | _
  · simp [restoreSource, waiting, Program.attempt]
  · cases before <;>
      simp_all [restoreSource, Program.attempt, Store.get, repaired]

/-- The failure to write a kustomization whose kind takes no updates. -/
def rejectedFailure (object : Json) : Failure :=
  .failed backend "rollback" (deploymentId .kustomization (nameOf object))
    (.cluster (.conflict (kustomizationKind.kind ++ " " ++ nameOf object ++ " was modified")))

/-- After the pin, a rollback whose caller has given up fails, and so does one whose kustomization
cannot be written; either is repaired as long as the caller waits. Every other one ends well. -/
theorem runFor_settle (waits : Nat → Bool) (memory : Memory) (before : Option Json)
    (has : HasRepository memory.cluster object repository)
    (present : memory.cluster.object? kustomizationKind home (nameOf object) = some object) :
    let source := sourceRef .kustomization object
    let run :=
      (settle home now object ⟨source.namespace, source.name, before⟩).runFor now waits memory
    let repaired : Memory :=
      ⟨updated memory.cluster object repository (repaired now repository before), memory.releases⟩
    if waits 0 = false then run = (.error .cancelled, if waits 1 then repaired else memory)
    else if kustomizationKind.plural ∈ memory.cluster.rejectedUpdates then
      run = (.error (rejectedFailure object), if waits 2 then repaired else memory)
    else ∃ deployment, run.1 = .ok deployment := by
  intro source run repaired
  rcases waiting : waits 0 with _ | _
  · have repair := runFor_restoreSource now (fun n => waits (n + 1)) .cancelled before has
    simpa [run, settle, write, waiting, Program.attempt] using repair
  by_cases rejected : kustomizationKind.plural ∈ memory.cluster.rejectedUpdates
  · have refused := Store.update_of_rejected memory.cluster kustomizationKind home
      (nameOf_requestReconcile now object) rejected
    have repair := runFor_restoreSource now (fun n => waits (n + 2)) (rejectedFailure object) before
      has
    simpa [run, settle, write, waiting, rejected, Program.attempt, FluxKind.resource, refused,
      deploymentFailure, nameOf_requestReconcile, rejectedFailure] using repair
  · have accepted := Store.update_of_current memory.cluster kustomizationKind home
      (nameOf_requestReconcile now object) rejected present
      (.inr (version_requestReconcile now object))
    simp [run, settle, write, waiting, rejected, Program.attempt, FluxKind.resource, accepted]

/-! How a rollback comes to its pin. -/

/-- A search whose caller waits looks through its places after two calls. -/
private theorem runFor_search {search : Search} {places : List Place}
    (found : search.places = .ok places) (waiting : waits 0 = true ∧ waits 1 = true) :
    search.program.runFor now waits memory =
      (search.seek places).runFor now (fun n => waits (n + 2)) memory := by
  simp [Search.program, found, waiting.1, waiting.2]

/-- A search that does not look through its places has failed and left everything as it is. -/
private theorem runFor_search_cases (waits : Nat → Bool) (memory : Memory) (search : Search) :
    (∃ failure, search.program.runFor now waits memory = (.error failure, memory)) ∨
      ∃ places, search.places = .ok places ∧ waits 0 = true ∧ waits 1 = true := by
  rcases first : waits 0 with _ | _
  · simp [Search.program, first]
  rcases found : search.places with failure | places
  · simp [Search.program, first, found]
  rcases second : waits 1 with _ | _
  · simp [Search.program, first, found, second]
  · exact .inr ⟨places, rfl, rfl, rfl⟩

private theorem places_rollback (home : String) (revision : Int64)
    (go : FluxKind → Json → Program Deployment) {id name : String} {kind : Option FluxKind}
    (parsed : parseId id = .ok (kind, name)) :
    (fluxSearch home "rollback" id (Operation.fluxRollbackCheck id revision)
      fun _ => go).places = (Rules.checkRevision revision >>= fun _ =>
        .ok ((fluxKinds kind).map fun kind => ⟨kind.resource, home, name, go kind⟩)) := by
  simp only [fluxSearch, Operation.fluxRollbackCheck, parsed]
  rcases Rules.checkRevision revision with failure | ⟨⟩ <;> rfl

variable {id commit : String} {revision : Int64}

/-- A pin that can be made is made, in three calls. -/
private theorem runFor_pinSource (waits : Nat → Bool) (id : String) {applied : String}
    (go : Pin → Program Deployment)
    (named : commitOf applied = some commit)
    (source : (sourceRef .kustomization object).kind = gitRepositoryKind.kind)
    (has : HasRepository memory.cluster object repository) (waiting : waits 0 = true) :
    (pinSource now id object applied >>= go).runFor now waits memory =
      (go ⟨(sourceRef .kustomization object).namespace, (sourceRef .kustomization object).name,
        repository.lookup refPath⟩).runFor now (fun n => waits (n + 3))
          ⟨updated memory.cluster object repository (pinned now repository commit),
            memory.releases⟩ := by
  have accepted := has.update (nameOf_pinned now repository commit)
    (version_pinned now repository commit)
  have present := has.present
  simp_all [pinSource, Store.get, pinned]

/-- A rollback that goes no further than its pin has failed and left everything as it is. -/
private theorem runFor_pinSource_cases (waits : Nat → Bool) (memory : Memory) (id : String)
    (object : Json) (applied : String) (go : Pin → Program Deployment) :
    (∃ failure, (pinSource now id object applied >>= go).runFor now waits memory =
        (.error failure, memory)) ∨
      ∃ commit repository, commitOf applied = some commit ∧
        (sourceRef .kustomization object).kind = gitRepositoryKind.kind ∧
        memory.cluster.object? gitRepositoryKind (sourceRef .kustomization object).namespace
          (sourceRef .kustomization object).name = some repository ∧
        gitRepositoryKind.plural ∉ memory.cluster.rejectedUpdates ∧ waits 0 = true := by
  rcases named : commitOf applied with _ | commit
  · simp [pinSource, named]
  by_cases source : (sourceRef .kustomization object).kind = gitRepositoryKind.kind
  · rcases waiting : waits 0 with _ | _
    · simp [pinSource, named, source, waiting]
    rcases present : memory.cluster.object? gitRepositoryKind
      (sourceRef .kustomization object).namespace (sourceRef .kustomization object).name with
      _ | repository
    · simp [pinSource, named, source, waiting, present, Store.get]
    rcases memory.cluster.update_cases gitRepositoryKind
      (sourceRef .kustomization object).namespace (pinned now repository commit) with
      ⟨error, run⟩ | ⟨_, _, accepted, _, _⟩
    · left
      rw [pinned] at run
      simp [pinSource, named, source, waiting, present, Store.get, run]
    · exact .inr ⟨commit, repository, rfl, source, rfl, accepted, rfl⟩
  · simp [pinSource, named, source]

theorem Pins.hasRepository (pins : Pins home id revision memory.cluster object repository commit)
    (reachable : memory.cluster.Reachable) : HasRepository memory.cluster object repository :=
  ⟨pins.present, reachable.nameOf_eq pins.present, pins.accepted⟩

private theorem program_rollback :
    rollbackDeployment home now id revision =
      (fluxSearch home "rollback" id (Operation.fluxRollbackCheck id revision) fun _ =>
        Operation.fluxRollbackGo now home id revision).program :=
  Operation.program_eq_search now (.fluxRollback home id revision)

/-- A rollback that comes to its pin goes on after six calls with the pinned repository in place. -/
theorem runFor_rollbackDeployment
    (pins : Pins home id revision memory.cluster object repository commit)
    (reachable : memory.cluster.Reachable)
    (waiting : waits 0 = true ∧ waits 1 = true ∧ waits 3 = true) :
    (rollbackDeployment home now id revision).runFor now waits memory =
      (settle home now object ⟨(sourceRef .kustomization object).namespace,
        (sourceRef .kustomization object).name, repository.lookup refPath⟩).runFor now
          (fun n => waits (n + 6))
          ⟨updated memory.cluster object repository (pinned now repository commit),
            memory.releases⟩ := by
  obtain ⟨kind, name, parsed, notHelm, present⟩ := pins.found
  obtain rfl := pins.last
  have places := places_rollback home 0 (Operation.fluxRollbackGo now home id 0) parsed
  have first : fluxKinds kind = .kustomization :: (fluxKinds kind).tail := by
    rcases kind with _ | _ | _
    · rfl
    · rfl
    · exact absurd rfl notHelm
  have applied : object.stringAt ["status", "lastAppliedRevision"] ≠ "" := by
    intro empty
    have none : commitOf "" = none := rfl
    rw [← empty, pins.commit] at none
    cases none
  rw [program_rollback, runFor_search now places ⟨waiting.1, waiting.2.1⟩, first]
  have pin := runFor_pinSource now (fun n => waits (n + 3)) id (settle home now object) pins.commit
    pins.source (pins.hasRepository reachable) waiting.2.2
  simp [Search.seek, FluxKind.resource, Store.get, present, Operation.fluxRollbackGo,
    rollbackKustomization_eq, applied, pin]

/-- A rollback of the kustomization that is found has failed and left everything as it was, or it comes
to its pin. -/
private theorem rollbackKustomization_cases (waits : Nat → Bool) (revision : Int64)
    (found : IsKustomization home id memory.cluster object) :
    (∃ failure, (Operation.rollbackKustomization now home id revision object).runFor now waits
        memory = (.error failure, memory)) ∨
      ∃ repository commit, Pins home id revision memory.cluster object repository commit ∧
        waits 0 = true := by
  rw [rollbackKustomization_eq]
  split
  · exact .inl ⟨_, rfl⟩
  split
  · rename_i last
    rcases runFor_pinSource_cases now waits memory id object _ (settle home now object) with
      stopped | ⟨commit, repository, named, source, present, accepted, waiting⟩
    · exact .inl stopped
    · exact .inr ⟨repository, commit, ⟨found, last, named, source, present, accepted⟩, waiting⟩
  · exact .inl ⟨_, rfl⟩

private theorem careful_helmPlaces {search : Search} {kinds : List FluxKind} {name : String}
    (helm : ∀ kind ∈ kinds, kind = .helmRelease) :
    (search.seek (kinds.map fun kind => ⟨kind.resource, home, name,
      Operation.fluxRollbackGo now home id revision kind⟩)).Careful fun _ => True := by
  refine search.careful_seek fun place mem object => ?_
  obtain ⟨kind, among, rfl⟩ := List.mem_map.mp mem
  rw [helm kind among]
  exact Rewrite.careful_program _ _

/-- An id means a helm release, or it is looked for among the kustomizations first. -/
private theorem fluxKinds_cases (kind : Option FluxKind) :
    fluxKinds kind = [.helmRelease] ∨
      ∃ others, kind ≠ some .helmRelease ∧ fluxKinds kind = .kustomization :: others ∧
        ∀ other ∈ others, other = .helmRelease := by
  rcases kind with _ | _ | _
  · exact .inr ⟨[.helmRelease], nofun, rfl, by simp⟩
  · exact .inr ⟨[], nofun, rfl, by simp⟩
  · exact .inl rfl

/-- A rollback that fails has come to its pin while its caller still waited, or it has left everything
as it was. -/
theorem rollbackDeployment_error_cases {failure : Failure} {after : Memory}
    (failed : (rollbackDeployment home now id revision).runFor now waits memory =
      (.error failure, after)) :
    after = memory ∨
      ∃ object repository commit, Pins home id revision memory.cluster object repository commit ∧
        waits 0 = true ∧ waits 1 = true ∧ waits 3 = true := by
  rw [program_rollback] at failed
  rcases runFor_search_cases now waits memory (fluxSearch home "rollback" id
      (Operation.fluxRollbackCheck id revision) fun _ =>
        Operation.fluxRollbackGo now home id revision) with
    ⟨problem, stopped⟩ | ⟨places, found, first, second⟩
  · rw [stopped] at failed
    cases failed
    exact .inl rfl
  rw [runFor_search now found ⟨first, second⟩] at failed
  obtain ⟨-, kind, name, -, parsed, rfl⟩ := fluxSearch_places home found
  rcases fluxKinds_cases kind with helm | ⟨others, notHelm, kinds, helm⟩
  · exact .inl ((careful_helmPlaces now (by simp [helm])).memory_eq trivial failed)
  rw [kinds, List.map_cons] at failed
  rcases present : memory.cluster.object? kustomizationKind home name with _ | object
  · simp [Search.seek, FluxKind.resource, Store.get, present] at failed
    exact .inl ((careful_helmPlaces now helm).memory_eq trivial failed)
  simp [Search.seek, FluxKind.resource, Store.get, present, Operation.fluxRollbackGo] at failed
  rcases rollbackKustomization_cases now (fun n => waits (n + 3)) revision
      ⟨kind, name, parsed, notHelm, present⟩ with
    ⟨problem, stopped⟩ | ⟨repository, commit, pins, third⟩
  · rw [stopped] at failed
    cases failed
    exact .inl rfl
  · exact .inr ⟨object, repository, commit, pins, first, second, third⟩

end

end DeploymentGateway.Flux.OnCluster
