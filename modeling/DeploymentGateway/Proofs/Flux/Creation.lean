import DeploymentGateway.Flux.OnCluster
import DeploymentGateway.Proofs.Cluster.Store
import DeploymentGateway.Proofs.Program
import DeploymentGateway.Proofs.Rules
/-!
What a failed creation leaves behind. A kustomization and its repository are created one after the
other, and when the second write fails the first one is undone. That puts everything back, but for one
kind of request: it names its source itself, by the name of the kustomization, and gives an address
too. Then the repository was there before, and is removed all the same.
-/

set_option autoImplicit false

namespace DeploymentGateway.Flux.OnCluster

open Cluster Rules

private theorem nameOf_of_newMetadata {object : Json} {name : String} (home : String)
    (labels : Json)
    (metadata : object.child? "metadata" = some (newMetadata name home labels)) :
    nameOf object = name := by
  simp [nameOf, Json.stringAt, Json.string?At, Json.lookup, metadata, newMetadata, Json.string?]

/-- The repository that a request asks for has the name of the request. -/
theorem nameOf_buildRepository {home url : String} {request : DeploymentRequest}
    {repository : Json} (built : buildRepository home request url = .ok repository) :
    nameOf repository = request.name := by
  obtain ⟨branch, -, built⟩ := Outcome.bind_eq_ok.mp built
  cases built
  exact nameOf_of_newMetadata home _ (by simp; rfl)

/-- The kustomization that a request asks for has the name of the request. -/
theorem nameOf_buildKustomization {home source : String} {request : DeploymentRequest}
    {kustomization : Json} (built : buildKustomization home request source = .ok kustomization) :
    nameOf kustomization = request.name := by
  obtain ⟨path, -, built⟩ := Outcome.bind_eq_ok.mp built
  obtain ⟨-, -, built⟩ := Outcome.bind_eq_ok.mp built
  obtain ⟨interval, -, built⟩ := Outcome.bind_eq_ok.mp built
  split at built
  · cases built
    exact nameOf_of_newMetadata home _ (by simp; rfl)
  · obtain ⟨substitute, -, built⟩ := Outcome.bind_eq_ok.mp built
    cases built
    exact nameOf_of_newMetadata home request.labels.toJson (by simp)

/-- The helm release that a request asks for has the name of the request. -/
theorem nameOf_buildHelmRelease {home : String} {request : DeploymentRequest} {release : Json}
    (built : buildHelmRelease home request = .ok release) : nameOf release = request.name := by
  obtain ⟨chart, -, built⟩ := Outcome.bind_eq_ok.mp built
  obtain ⟨source, -, built⟩ := Outcome.bind_eq_ok.mp built
  obtain ⟨-, -, built⟩ := Outcome.bind_eq_ok.mp built
  obtain ⟨sourceKind, -, built⟩ := Outcome.bind_eq_ok.mp built
  obtain ⟨version, -, built⟩ := Outcome.bind_eq_ok.mp built
  obtain ⟨interval, -, built⟩ := Outcome.bind_eq_ok.mp built
  cases built
  exact nameOf_of_newMetadata home _ (by simp; rfl)

/-- The source of a new kustomization is named by the request, or else it is a repository of the
request's own name that is yet to be made. -/
theorem newSource_cases {home : String} {request : DeploymentRequest} {source : String}
    {repository : Option Json} (found : newSource home request = .ok (source, repository)) :
    ∃ url, optionalText request.extensions "repoURL" = .ok url ∧
      ((repository = none ∧ optionalText request.extensions "sourceName" = .ok (some source)) ∨
        (source = request.name ∧ optionalText request.extensions "sourceName" = .ok none ∧
          url.isSome ∧ ∃ made, repository = some made ∧ nameOf made = request.name)) := by
  obtain ⟨name, named, found⟩ := Outcome.bind_eq_ok.mp found
  obtain ⟨url, addressed, found⟩ := Outcome.bind_eq_ok.mp found
  refine ⟨url, addressed, ?_⟩
  cases name with
  | some name =>
    obtain ⟨-, -, found⟩ := Outcome.bind_eq_ok.mp found
    cases found
    exact Or.inl ⟨rfl, named⟩
  | none =>
    cases url with
    | none => cases found
    | some url =>
      obtain ⟨made, built, found⟩ := Outcome.bind_eq_ok.mp found
      cases found
      exact Or.inr ⟨rfl, named, rfl, made, rfl, nameOf_buildRepository built⟩

/-- The request makes a kustomization that is there already. It names the source itself, by the name of
the kustomization, and gives an address too; and a repository of that name is there. -/
structure LosesSource (home : String) (request : DeploymentRequest) (store : Store) : Prop where
  name : checkName "name" request.name = .ok ()
  target : checkName "namespace" request.namespace = .ok ()
  kind : requestedKind request = .ok .kustomization
  source : optionalText request.extensions "sourceName" = .ok (some request.name)
  address : ∃ url, optionalText request.extensions "repoURL" = .ok (some url)
  built : ∃ kustomization, buildKustomization home request request.name = .ok kustomization
  taken : (store.object? kustomizationKind home request.name).isSome
  present : (store.object? gitRepositoryKind home request.name).isSome

/-- The failure to make an object that is there already. -/
def takenFailure (kind : ResourceKind) (request : DeploymentRequest) : Failure :=
  .failed backend "create" request.name
    (.cluster (.conflict (kind.kind ++ " " ++ request.name ++ " already exists")))

section

variable {home : String} {now : Time.Instant} {waits : Nat → Bool} {request : DeploymentRequest}
  {memory : Memory} {source : String} {kustomization : Json} {url : Option String}

/-- A kustomization that is there already is not made again from a source that the request names. -/
private theorem run_named_taken (waiting : waits 0 = true) (named : request.name ≠ "")
    (found : newSource home request = .ok (source, none))
    (built : buildKustomization home request source = .ok kustomization)
    (addressed : optionalText request.extensions "repoURL" = .ok url)
    (taken : (memory.cluster.object? kustomizationKind home request.name).isSome) :
    (createKustomization home now request).runFor now waits memory =
      (.error (takenFailure kustomizationKind request),
        if url.isSome ∧ source = request.name then
          ⟨(memory.cluster.delete gitRepositoryKind home source).2, memory.releases⟩
        else memory) := by
  have refused := memory.cluster.create_of_present now kustomizationKind home
    (nameOf_buildKustomization built) named taken
  simp [createKustomization, found, built, addressed, takenFailure, waiting, refused]
  split <;> simp

/-- A kustomization that is not there yet is made from the source that the request names. -/
private theorem run_named_free (waiting : waits 0 = true) (named : request.name ≠ "")
    (found : newSource home request = .ok (source, none))
    (built : buildKustomization home request source = .ok kustomization)
    (free : memory.cluster.object? kustomizationKind home request.name = none) :
    ∃ deployment,
      ((createKustomization home now request).runFor now waits memory).1 = .ok deployment := by
  have made := memory.cluster.create_of_absent now kustomizationKind home
    (nameOf_buildKustomization built) named free
  simp [createKustomization, found, built, waiting, made]

variable {repository : Json} (waiting : waits 0 = true) (named : request.name ≠ "")
  (kept : nameOf repository = request.name)
  (found : newSource home request = .ok (request.name, some repository))
  (built : buildKustomization home request request.name = .ok kustomization)

include kept named in
/-- A new repository is put in place, and the place of the kustomization does not see it. -/
private theorem create_repository (now : Time.Instant)
    (absent : memory.cluster.object? gitRepositoryKind home request.name = none) :
    ∃ made placed,
      memory.cluster.create now gitRepositoryKind home repository = (.ok made, placed) ∧
        placed.objects =
          memory.cluster.objects.insert (Store.key gitRepositoryKind home request.name) made ∧
        placed.object? kustomizationKind home request.name =
          memory.cluster.object? kustomizationKind home request.name := by
  have apart : Store.key kustomizationKind home request.name ≠
      Store.key gitRepositoryKind home request.name :=
    Store.key_ne_of_plural (by decide) home home request.name request.name
  exact ⟨_, _, Store.create_of_absent _ _ _ _ kept named absent, rfl,
    Store.object?_write_of_ne _ _ _ apart _⟩

include waiting named kept found built

/-- A kustomization is not made when the repository to be made with it is there already. -/
private theorem run_made_present
    (present : (memory.cluster.object? gitRepositoryKind home request.name).isSome) :
    ∃ failure, (createKustomization home now request).runFor now waits memory =
      (.error failure, memory) := by
  have refused := memory.cluster.create_of_present now gitRepositoryKind home kept named present
  simp [createKustomization, found, built, waiting, refused]

/-- The new repository is removed again when the kustomization is there already. -/
private theorem run_made_taken (addressed : optionalText request.extensions "repoURL" = .ok url)
    (given : url.isSome)
    (absent : memory.cluster.object? gitRepositoryKind home request.name = none)
    (taken : (memory.cluster.object? kustomizationKind home request.name).isSome) :
    ∃ after, (createKustomization home now request).runFor now waits memory =
        (.error (takenFailure kustomizationKind request), after) ∧
      after.cluster.objects = memory.cluster.objects := by
  obtain ⟨made, placed, put, objects, elsewhere⟩ := create_repository named kept now absent
  have refused := placed.create_of_present now kustomizationKind home
    (nameOf_buildKustomization built) named (elsewhere ▸ taken)
  have undone : placed.delete gitRepositoryKind home request.name =
      (.ok (), { placed with objects := memory.cluster.objects }) := by
    rw [Store.delete_of_present, objects, SortedMap.erase_insert_of_get?_eq_none absent]
    rw [Store.object?, objects, SortedMap.get?_insert_self]
    rfl
  simp [createKustomization, found, built, addressed, given, takenFailure, waiting, put, refused,
    undone]

/-- A kustomization is made with its repository when neither is there yet. -/
private theorem run_made_free
    (absent : memory.cluster.object? gitRepositoryKind home request.name = none)
    (free : memory.cluster.object? kustomizationKind home request.name = none) :
    ∃ deployment,
      ((createKustomization home now request).runFor now waits memory).1 = .ok deployment := by
  obtain ⟨made, placed, put, -, elsewhere⟩ := create_repository named kept now absent
  have created := placed.create_of_absent now kustomizationKind home
    (nameOf_buildKustomization built) named (elsewhere.trans free)
  simp [createKustomization, found, built, waiting, put, created]

omit waiting named kept found built

/-- A failed creation of a kustomization leaves all objects as they were, or else the request names
its source by its own name and gives an address too, and both objects were there before. -/
private theorem objects_of_createKustomization_error {failure : Failure} {after : Memory}
    (named : request.name ≠ "")
    (failed : (createKustomization home now request).runFor now waits memory =
      (.error failure, after)) :
    after.cluster.objects = memory.cluster.objects ∨
      (failure ≠ .cancelled ∧
        optionalText request.extensions "sourceName" = .ok (some request.name) ∧
        (∃ url, optionalText request.extensions "repoURL" = .ok (some url)) ∧
        (∃ kustomization, buildKustomization home request request.name = .ok kustomization) ∧
        (memory.cluster.object? kustomizationKind home request.name).isSome ∧
        (memory.cluster.object? gitRepositoryKind home request.name).isSome) := by
  rcases found : newSource home request with problem | ⟨source, repository⟩
  · left
    simp [createKustomization, found] at failed
    rw [failed.2]
  rcases built : buildKustomization home request source with problem | kustomization
  · left
    simp [createKustomization, found, built] at failed
    rw [failed.2]
  rcases waiting : waits 0 with _ | _
  · left
    simp [createKustomization, found, built, waiting] at failed
    rw [failed.2]
  obtain ⟨url, addressed, ⟨rfl, itself⟩ | ⟨rfl, itself, given, made, rfl, kept⟩⟩ :=
    newSource_cases found
  · rcases taken : memory.cluster.object? kustomizationKind home request.name with _ | present
    · obtain ⟨deployment, succeeded⟩ := run_named_free waiting named found built taken
      rw [failed] at succeeded
      cases succeeded
    · rw [run_named_taken waiting named found built addressed (by rw [taken]; rfl)] at failed
      split at failed
      · rename_i own
        obtain ⟨given, rfl⟩ := own
        obtain ⟨address, rfl⟩ := Option.isSome_iff_exists.mp given
        rcases repository : memory.cluster.object? gitRepositoryKind home request.name with _ | _
        · left
          rw [Store.delete_of_absent _ _ _ repository] at failed
          cases failed
          rfl
        · right
          cases failed
          exact ⟨by simp [takenFailure], itself, ⟨address, addressed⟩, ⟨kustomization, built⟩, rfl,
            rfl⟩
      · left
        cases failed
        rfl
  · left
    rcases present : memory.cluster.object? gitRepositoryKind home request.name with _ | _
    · rcases taken : memory.cluster.object? kustomizationKind home request.name with _ | _
      · obtain ⟨deployment, succeeded⟩ := run_made_free waiting named kept found built present taken
        rw [failed] at succeeded
        cases succeeded
      · obtain ⟨left, run, same⟩ := run_made_taken waiting named kept found built addressed given
          present (by rw [taken]; rfl)
        rw [failed] at run
        cases run
        exact same
    · obtain ⟨problem, run⟩ := run_made_present waiting named kept found built
        (by rw [present]; rfl)
      rw [failed] at run
      cases run
      rfl

/-- A failed creation of a helm release leaves everything as it was. -/
private theorem memory_of_createHelmRelease_error {failure : Failure} {after : Memory}
    (named : request.name ≠ "")
    (failed : (createHelmRelease home now request).runFor now waits memory =
      (.error failure, after)) : after = memory := by
  rcases built : buildHelmRelease home request with problem | release
  · simp [createHelmRelease, built] at failed
    exact failed.2.symm
  rcases waiting : waits 0 with _ | _
  · simp [createHelmRelease, built, waiting] at failed
    exact failed.2.symm
  rcases taken : memory.cluster.object? helmReleaseKind home request.name with _ | _
  · have made := memory.cluster.create_of_absent now helmReleaseKind home
      (nameOf_buildHelmRelease built) named taken
    simp [createHelmRelease, built, waiting, made] at failed
  · have refused := memory.cluster.create_of_present now helmReleaseKind home
      (nameOf_buildHelmRelease built) named (by rw [taken]; rfl)
    simp [createHelmRelease, built, waiting, refused] at failed
    exact failed.2.symm

/-- A creation that fails for another reason than its caller giving up has passed the checks of the
request and has come to create an object, or else it leaves everything as it was. -/
private theorem createDeployment_error_cases {failure : Failure} {after : Memory}
    (failed : (createDeployment home now request).runFor now waits memory =
      (.error failure, after)) :
    after = memory ∨
      ((checkName "name" request.name = .ok () ∧
        checkName "namespace" request.namespace = .ok () ∧
        requestedKind request = .ok .kustomization) ∧
        (createKustomization home now request).runFor now (fun n => waits (n + 1)) memory =
          (.error failure, after)) := by
  rcases waiting : waits 0 with _ | _
  · left
    simp [createDeployment, waiting] at failed
    exact failed.2.symm
  rcases name : checkName "name" request.name with problem | ⟨⟩
  · left
    simp [createDeployment, waiting, name] at failed
    exact failed.2.symm
  rcases target : checkName "namespace" request.namespace with problem | ⟨⟩
  · left
    simp [createDeployment, waiting, name, target] at failed
    exact failed.2.symm
  rcases asked : requestedKind request with problem | kind
  · left
    simp [createDeployment, waiting, name, target, asked] at failed
    exact failed.2.symm
  cases kind with
  | kustomization =>
    simp [createDeployment, waiting, name, target, asked] at failed
    exact Or.inr ⟨⟨rfl, rfl, rfl⟩, failed⟩
  | helmRelease =>
    simp [createDeployment, waiting, name, target, asked] at failed
    exact Or.inl (memory_of_createHelmRelease_error (ne_empty_of_checkName name) failed)

/-- A request that loses its source asks for a kustomization with the source that it names. -/
theorem LosesSource.newSource (loses : LosesSource home request memory.cluster) :
    newSource home request = .ok (request.name, none) := by
  obtain ⟨url, addressed⟩ := loses.address
  have checked : checkName "extensions.sourceName" request.name = .ok () :=
    checkName_field loses.name
  rw [Flux.newSource, loses.source, addressed]
  change checkName "extensions.sourceName" request.name >>= _ = _
  rw [checked]
  rfl

/-- A request that loses its source fails, and the repository is gone, unless the caller gave up. -/
private theorem createDeployment_of_losesSource (now : Time.Instant) (waits : Nat → Bool)
    (loses : LosesSource home request memory.cluster) :
    (createDeployment home now request).runFor now waits memory = (.error .cancelled, memory) ∨
      (createDeployment home now request).runFor now waits memory =
        (.error (takenFailure kustomizationKind request),
          ⟨(memory.cluster.delete gitRepositoryKind home request.name).2, memory.releases⟩) := by
  obtain ⟨url, addressed⟩ := loses.address
  obtain ⟨kustomization, built⟩ := loses.built
  rcases waiting : waits 0 with _ | _
  · left
    simp [createDeployment, waiting]
  rcases stays : waits 1 with _ | _
  · left
    simp [createDeployment, createKustomization, waiting, loses.name, loses.target, loses.kind,
      loses.newSource, built, stays]
  · right
    have run : (createKustomization home now request).runFor now (fun n => waits (n + 1)) memory =
        _ :=
      run_named_taken stays (ne_empty_of_checkName loses.name) loses.newSource built addressed
        loses.taken
    simp [createDeployment, waiting, loses.name, loses.target, loses.kind, run]

/-- A failed creation changes no object, with one exception: a request that loses its source, whose
caller did not give up, removes the repository that it names. -/
theorem objects_of_createDeployment_error {failure : Failure} {after : Memory}
    (failed : (createDeployment home now request).runFor now waits memory =
      (.error failure, after)) :
    (after.cluster.objects = memory.cluster.objects ↔
        ¬ (LosesSource home request memory.cluster ∧ failure ≠ .cancelled)) ∧
      (LosesSource home request memory.cluster → failure ≠ .cancelled →
        after.cluster.objects =
          memory.cluster.objects.erase (Store.key gitRepositoryKind home request.name)) := by
  have removed : LosesSource home request memory.cluster → failure ≠ .cancelled →
      after.cluster.objects =
        memory.cluster.objects.erase (Store.key gitRepositoryKind home request.name) := by
    intro loses stays
    rcases createDeployment_of_losesSource now waits loses with run | run
    · rw [failed] at run
      cases run
      exact absurd rfl stays
    · rw [failed, Store.delete_of_present _ _ _ loses.present] at run
      cases run
      rfl
  refine ⟨⟨?_, ?_⟩, removed⟩
  · rintro same ⟨loses, stays⟩
    have present := loses.present
    rw [Store.object?, ← same, removed loses stays, SortedMap.get?_erase_self] at present
    cases present
  · intro spared
    rcases createDeployment_error_cases failed with rfl | ⟨⟨name, target, kind⟩, failed⟩
    · rfl
    · rcases objects_of_createKustomization_error (ne_empty_of_checkName name) failed with
        same | ⟨stays, source, address, built, taken, present⟩
      · exact same
      · exact absurd ⟨⟨name, target, kind, source, address, built, taken, present⟩, stays⟩ spared

end

/-- A request that names its source by its own name and gives an address too. -/
def selfNamed : DeploymentRequest where
  name := "web"
  «namespace» := "shop"
  packageId := none
  values := .empty
  labels := .empty
  extensions := .ofList [("repoURL", .string "https://git/web"), ("sourceName", .string "web")]

/-- A memory in which somebody else keeps a kustomization and a repository of that name. -/
def claimed : Memory :=
  let object := Json.ofPairs [("metadata", newMetadata "web" "flux-system" (.object []))]
  ⟨(Store.empty.seed gitRepositoryKind object).seed kustomizationKind object, .empty⟩

private theorem selfNamed_losesSource :
    LosesSource "flux-system" selfNamed claimed.cluster where
  name := rfl
  target := rfl
  kind := rfl
  source := rfl
  address := ⟨_, rfl⟩
  built := ⟨_, rfl⟩
  taken := rfl
  present := rfl

/-- The repository that somebody else keeps is gone after the failed creation. -/
theorem objects_of_createDeployment_selfNamed :
    ((createDeployment "flux-system" ⟨0, 0⟩ selfNamed).runFor ⟨0, 0⟩ (fun _ => true)
        claimed).2.cluster.objects =
      claimed.cluster.objects.erase (Store.key gitRepositoryKind "flux-system" "web") := by
  have failed : (createDeployment "flux-system" ⟨0, 0⟩ selfNamed).runFor ⟨0, 0⟩ (fun _ => true)
      claimed = (.error (takenFailure kustomizationKind selfNamed), _) := rfl
  exact (objects_of_createDeployment_error failed).2 selfNamed_losesSource nofun

/-- Not every failed creation leaves the objects as they were. -/
theorem createDeployment_error_changes_objects :
    ∃ failure after,
      (createDeployment "flux-system" ⟨0, 0⟩ selfNamed).runInMemory ⟨0, 0⟩ claimed =
        (.error failure, after) ∧
      after.cluster.objects ≠ claimed.cluster.objects := by
  refine ⟨_, _, rfl, fun same => ?_⟩
  have present : claimed.cluster.objects.contains
      (Store.key gitRepositoryKind "flux-system" "web") = true := rfl
  rw [← same] at present
  exact absurd present (by decide)

end DeploymentGateway.Flux.OnCluster
