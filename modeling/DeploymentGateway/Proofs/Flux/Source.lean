import DeploymentGateway.Proofs.Flux.Creation
import DeploymentGateway.Proofs.Flux.Pin
import DeploymentGateway.Proofs.Refusal.Flux
import DeploymentGateway.Proofs.Rewrite.Run
/-!
Where the repositories of kustomizations come from and where they go. The gateway makes a repository only
together with a kustomization of its name, and whatever it does to the two after that, failures included,
no repository is left without that kustomization.
-/

set_option autoImplicit false

namespace DeploymentGateway

open Cluster

namespace Flux

open OnCluster

/-! What a kustomization says of itself and is never changed. -/

/-- Where a kustomization has its name, its source and the revision that was applied last. -/
def originPaths : List Json.Path := [
  namePath, ["metadata", "namespace"], ["spec", "sourceRef", "kind"],
  ["spec", "sourceRef", "namespace"], ["spec", "sourceRef", "name"],
  ["status", "lastAppliedRevision"]]

/-- Two objects have the same name, source and last revision. -/
def Alike (a b : Json) : Prop :=
  ∀ path ∈ originPaths, a.lookup path = b.lookup path

namespace Alike

variable {a b c : Json}

theorem refl (a : Json) : Alike a a :=
  fun _ _ => rfl

theorem trans (first : Alike a b) (second : Alike b c) : Alike a c :=
  fun path mem => (first path mem).trans (second path mem)

theorem set {place : Json.Path} (away : ∀ path ∈ originPaths, Json.Path.Diverges place path)
    (object new : Json) : Alike (object.set new place) object := by
  have names : ∀ path ∈ originPaths, ∀ segment ∈ path,
      Text.readNatural? Json.greatestIndex segment = none := by decide
  intro path mem
  exact Json.lookup_set_of_names (away path mem) (names path mem) object new

theorem setAll {place : Json.Path}
    (away : ∀ name, ∀ path ∈ originPaths, Json.Path.Diverges (place ++ [name]) path)
    (object : Json) (fields : List (String × Json)) : Alike (object.setAll place fields) object := by
  induction fields generalizing object with
  | nil => exact refl object
  | cons field rest ih => exact (ih _).trans (set (away field.1) object field.2)

theorem stringAt (alike : Alike a b) {path : Json.Path} (mem : path ∈ originPaths) :
    a.stringAt path = b.stringAt path := by
  rw [Json.stringAt, Json.string?At, alike path mem]
  rfl

theorem nameOf (alike : Alike a b) : Cluster.nameOf a = Cluster.nameOf b :=
  alike.stringAt (by simp [originPaths])

theorem sourceRef (alike : Alike a b) :
    Flux.sourceRef .kustomization a = Flux.sourceRef .kustomization b := by
  have kind : a.stringAt ["spec", "sourceRef", "kind"] = b.stringAt ["spec", "sourceRef", "kind"] :=
    alike.stringAt (by simp [originPaths])
  have space : a.stringAt ["spec", "sourceRef", "namespace"] =
      b.stringAt ["spec", "sourceRef", "namespace"] := alike.stringAt (by simp [originPaths])
  have name : a.stringAt ["spec", "sourceRef", "name"] = b.stringAt ["spec", "sourceRef", "name"] :=
    alike.stringAt (by simp [originPaths])
  have home : a.stringAt ["metadata", "namespace"] = b.stringAt ["metadata", "namespace"] :=
    alike.stringAt (by simp [originPaths])
  simp [Flux.sourceRef, FluxKind.sourcePath, namespaceOf, kind, space, name, home]

end Alike

theorem alike_written (store : Store) (object : Json) : Alike (store.written object) object :=
  Alike.set (by simp [originPaths]) object _

theorem alike_succeeding (current object : Json) : Alike (Store.succeeding current object) object :=
  Alike.set (by simp [originPaths]) object _

theorem alike_requestReconcile (now : Time.Instant) (object : Json) :
    Alike (requestReconcile now object) object :=
  Alike.set (by simp [originPaths, requestedAt]) object _

theorem alike_applyUpdate {object changed : Json} {update : DeploymentUpdate}
    {path version : Option String}
    (run : applyUpdate .kustomization object update path version = .ok changed) :
    Alike changed object := by
  have substituted (fields : List (String × Json)) :
      Alike (object.setAll ["spec", "postBuild", "substitute"] fields) object :=
    Alike.setAll (by simp [originPaths]) object fields
  have labelled (object : Json) (fields : List (String × Json)) :
      Alike (object.setAll ["metadata", "labels"] fields) object :=
    Alike.setAll (by simp [originPaths]) object fields
  obtain ⟨fields, -, run⟩ := Outcome.bind_eq_ok.mp run
  rcases path with _ | path
  · cases run
    exact (labelled _ _).trans (substituted fields)
  · cases run
    exact ((labelled _ _).trans (Alike.set (by simp [originPaths]) _ _)).trans (substituted fields)

/-! A kustomization and the repository of its name. -/

/-- A kustomization as the gateway keeps it: under its name, applied from a repository in its own
namespace, and never applied so far. -/
structure Kept («namespace» name : String) (object : Json) : Prop where
  named : nameOf object = name
  repository : (sourceRef .kustomization object).kind = gitRepositoryKind.kind
  home : (sourceRef .kustomization object).namespace = «namespace»
  unapplied : object.stringAt ["status", "lastAppliedRevision"] = ""

theorem Kept.of_alike {«namespace» name : String} {object new : Json}
    (kept : Kept «namespace» name object) (alike : Alike new object) : Kept «namespace» name new where
  named := alike.nameOf.trans kept.named
  repository := alike.sourceRef ▸ kept.repository
  home := alike.sourceRef ▸ kept.home
  unapplied := (alike.stringAt (by simp [originPaths])).trans kept.unapplied

/-- The reference to a repository. -/
abbrev repositoryRef («namespace» name : String) : SourceRef :=
  ⟨gitRepositoryKind.kind, «namespace», name⟩

/-- A repository has its name and is labelled with it. -/
structure Owned (name : String) (repository : Json) : Prop where
  named : nameOf repository = name
  label : (labelsOf repository).get? ownerLabel = some name

/-- What may stand in the two places of one name: a kustomization that is kept, and a repository only if
that kustomization is applied from it. -/
structure Matched («namespace» name : String) (kustomization repository : Option Json) : Prop where
  kept : ∀ object, kustomization = some object → Kept «namespace» name object
  owned : ∀ made, repository = some made → Owned name made
  applied : repository ≠ none → ∃ object, kustomization = some object ∧
    sourceRef .kustomization object = repositoryRef «namespace» name

/-- Each kustomization and each repository is matched by the other object of its name. -/
def Sourced (objects : Objects) : Prop :=
  ∀ «namespace» name, Matched «namespace» name
    (objects.get? (Store.key kustomizationKind «namespace» name))
    (objects.get? (Store.key gitRepositoryKind «namespace» name))

namespace Matched

variable {«namespace» name : String} {object new : Json} {repository : Option Json}

theorem nothing : Matched «namespace» name none none :=
  ⟨nofun, nofun, fun ne => absurd rfl ne⟩

theorem replace (h : Matched «namespace» name (some object) repository) (alike : Alike new object) :
    Matched «namespace» name (some new) repository where
  kept := by
    rintro _ ⟨⟩
    exact (h.kept object rfl).of_alike alike
  owned := h.owned
  applied present := by
    obtain ⟨_, ⟨⟩, source⟩ := h.applied present
    exact ⟨new, rfl, alike.sourceRef.trans source⟩

theorem alone (kept : Kept «namespace» name object) :
    Matched «namespace» name (some object) none where
  kept := by
    rintro _ ⟨⟩
    exact kept
  owned := nofun
  applied ne := absurd rfl ne

end Matched

namespace Sourced

variable {objects after : Objects} (h : Sourced objects) {«namespace» name : String}

include h

/-- A name that is free for a kustomization is free for its repository too. -/
theorem repository_free (free : objects.get? (Store.key kustomizationKind «namespace» name) = none) :
    objects.get? (Store.key gitRepositoryKind «namespace» name) = none := by
  by_contra present
  obtain ⟨_, found, -⟩ := (h «namespace» name).applied present
  rw [free] at found
  cases found

/-- To touch the two places of one name only, it is enough that these match again. -/
theorem elsewhere («namespace» name : String)
    (away : ∀ key, key ≠ Store.key kustomizationKind «namespace» name →
      key ≠ Store.key gitRepositoryKind «namespace» name → after.get? key = objects.get? key)
    (here : Matched «namespace» name (after.get? (Store.key kustomizationKind «namespace» name))
      (after.get? (Store.key gitRepositoryKind «namespace» name))) : Sourced after := by
  intro space other
  by_cases same : space = «namespace» ∧ other = name
  · obtain ⟨rfl, rfl⟩ := same
    exact here
  · have kustomization : Store.key kustomizationKind space other ≠
        Store.key kustomizationKind «namespace» name := by
      simpa [Store.key, kustomizationKind] using same
    have repository : Store.key gitRepositoryKind space other ≠
        Store.key gitRepositoryKind «namespace» name := by
      simpa [Store.key, gitRepositoryKind] using same
    have apart := Store.key_ne_of_plural (by decide : kustomizationKind.plural ≠ gitRepositoryKind.plural)
    rw [away _ kustomization (apart _ _ _ _), away _ (apart _ _ _ _).symm repository]
    exact h space other

/-- What is stored of helm releases does not matter. -/
theorem insert_helmRelease {new : Json} :
    Sourced (objects.insert (Store.key helmReleaseKind «namespace» name) new) := by
  intro space other
  have kustomization := Store.key_ne_of_plural
    (by decide : kustomizationKind.plural ≠ helmReleaseKind.plural) space «namespace» other name
  have repository := Store.key_ne_of_plural
    (by decide : gitRepositoryKind.plural ≠ helmReleaseKind.plural) space «namespace» other name
  rw [SortedMap.get?_insert_of_ne _ kustomization, SortedMap.get?_insert_of_ne _ repository]
  exact h space other

theorem erase_helmRelease :
    Sourced (objects.erase (Store.key helmReleaseKind «namespace» name)) := by
  intro space other
  have kustomization := Store.key_ne_of_plural
    (by decide : kustomizationKind.plural ≠ helmReleaseKind.plural) space «namespace» other name
  have repository := Store.key_ne_of_plural
    (by decide : gitRepositoryKind.plural ≠ helmReleaseKind.plural) space «namespace» other name
  rw [SortedMap.get?_erase_of_ne _ kustomization, SortedMap.get?_erase_of_ne _ repository]
  exact h space other

end Sourced

/-! New objects. -/

theorem alike_admitted (now : Time.Instant) {kind : ResourceKind} (namespaced : kind.namespaced = true)
    («namespace» : String) (object : Json) :
    Alike (Store.admitted now kind «namespace» object)
      (object.set (.string «namespace») ["metadata", "namespace"]) := by
  have version (object new : Json) : Alike (object.set new ["apiVersion"]) object :=
    Alike.set (by simp [originPaths]) object new
  have title (object new : Json) : Alike (object.set new ["kind"]) object :=
    Alike.set (by simp [originPaths]) object new
  have created (object new : Json) :
      Alike (object.set new ["metadata", "creationTimestamp"]) object :=
    Alike.set (by simp [originPaths]) object new
  have generation (object new : Json) : Alike (object.set new generationPath) object :=
    Alike.set (by simp [originPaths]) object new
  rw [Store.admitted, if_pos namespaced]
  exact (((generation _ _).trans (created _ _)).trans (title _ _)).trans (version _ _)

/-- A new kustomization says what it is applied from, and nothing of the namespace of that. -/
private theorem lookup_buildKustomization {home source : String} {request : DeploymentRequest}
    {object : Json} (built : buildKustomization home request source = .ok object) :
    object.lookup ["spec", "sourceRef", "kind"] = some (.string gitRepositoryKind.kind) ∧
      object.lookup ["spec", "sourceRef", "namespace"] = none ∧
      object.lookup ["spec", "sourceRef", "name"] = some (.string source) ∧
      object.lookup ["status", "lastAppliedRevision"] = none := by
  obtain ⟨path, -, built⟩ := Outcome.bind_eq_ok.mp built
  obtain ⟨-, -, built⟩ := Outcome.bind_eq_ok.mp built
  obtain ⟨interval, -, built⟩ := Outcome.bind_eq_ok.mp built
  split at built
  · cases built
    simp [Json.lookup]
  · obtain ⟨substitute, -, built⟩ := Outcome.bind_eq_ok.mp built
    cases built
    have alike (object new : Json) :
        Alike (object.set new ["spec", "postBuild", "substitute"]) object :=
      Alike.set (by simp [originPaths]) object new
    rw [alike _ _ _ (by simp [originPaths]), alike _ _ _ (by simp [originPaths]),
      alike _ _ _ (by simp [originPaths]), alike _ _ _ (by simp [originPaths])]
    simp [Json.lookup]

theorem sourceRef_buildKustomization {home source : String} {request : DeploymentRequest}
    {object : Json} (built : buildKustomization home request source = .ok object) :
    sourceRef .kustomization object = repositoryRef home source := by
  obtain ⟨path, -, built⟩ := Outcome.bind_eq_ok.mp built
  obtain ⟨-, -, built⟩ := Outcome.bind_eq_ok.mp built
  obtain ⟨interval, -, built⟩ := Outcome.bind_eq_ok.mp built
  split at built
  · cases built
    simp [sourceRef, FluxKind.sourcePath, Json.stringAt, Json.string?At, Json.lookup, namespaceOf,
      newMetadata, Json.string?]
  · obtain ⟨substitute, -, built⟩ := Outcome.bind_eq_ok.mp built
    cases built
    have alike (object new : Json) :
        Alike (object.set new ["spec", "postBuild", "substitute"]) object :=
      Alike.set (by simp [originPaths]) object new
    rw [(alike _ _).sourceRef]
    simp [sourceRef, FluxKind.sourcePath, Json.stringAt, Json.string?At, Json.lookup, namespaceOf,
      newMetadata, Json.string?]

/-- A new kustomization is kept, and applied from the source that it was built with. -/
theorem kept_created {home source : String} {request : DeploymentRequest} {object : Json}
    (built : buildKustomization home request source = .ok object) (now : Time.Instant)
    (store : Store) :
    Kept home request.name (store.written (Store.admitted now kustomizationKind home object)) ∧
      sourceRef .kustomization (store.written (Store.admitted now kustomizationKind home object)) =
        repositoryRef home source := by
  have admitted : Alike (Store.admitted now kustomizationKind home object)
      (object.set (.string home) ["metadata", "namespace"]) := alike_admitted now rfl home object
  have alike := (alike_written store _).trans admitted
  obtain ⟨kind, space, name, applied⟩ := lookup_buildKustomization built
  have away (path : Json.Path) (apart : Json.Path.Diverges ["metadata", "namespace"] path)
      (names : ∀ segment ∈ path, Text.readNatural? Json.greatestIndex segment = none) :
      (object.set (.string home) ["metadata", "namespace"]).lookup path = object.lookup path :=
    Json.lookup_set_of_names apart names object _
  have source : sourceRef .kustomization (object.set (.string home) ["metadata", "namespace"]) =
      repositoryRef home source := by
    simp [sourceRef, FluxKind.sourcePath, Json.stringAt, Json.string?At, namespaceOf,
      away ["spec", "sourceRef", "kind"] (by simp) (by decide), kind,
      away ["spec", "sourceRef", "namespace"] (by simp) (by decide), space,
      away ["spec", "sourceRef", "name"] (by simp) (by decide), name, Json.string?]
  refine ⟨Kept.of_alike ⟨?_, ?_, ?_, ?_⟩ alike, alike.sourceRef.trans source⟩
  · rw [nameOf_set_of_diverges (by simp), nameOf_buildKustomization built]
  · rw [source]
  · rw [source]
  · rw [Json.stringAt, Json.string?At, away _ (by simp) (by decide), applied]
    rfl

/-- A new repository is labelled with its name. -/
theorem owned_created {home url : String} {request : DeploymentRequest} {object : Json}
    (built : buildRepository home request url = .ok object) (named : request.name ≠ "")
    (now : Time.Instant) (store : Store) :
    Owned request.name (store.written (Store.admitted now gitRepositoryKind home object)) where
  named := by
    rw [Store.nameOf_written]
    exact Store.nameOf_admitted now _ home (nameOf_buildRepository built) named
  label := by
    have labels : labelsOf object = .ofList [(ownerLabel, request.name)] := by
      obtain ⟨branch, -, built⟩ := Outcome.bind_eq_ok.mp built
      cases built
      simp [labelsOf, textsAt, Json.lookup, newMetadata, Json.object?]
      rfl
    have namespaced : gitRepositoryKind.namespaced = true := rfl
    rw [Store.written, Store.admitted, if_pos namespaced]
    simp (disch := simp) only [labelsOf_set_of_diverges]
    rw [labels]
    exact SortedMap.get?_insert_self _ _ _

/-- A repository is made with a kustomization only for an address, and under the request's name. -/
private theorem newSource_made {home source : String} {request : DeploymentRequest}
    {repository : Json} (found : newSource home request = .ok (source, some repository)) :
    source = request.name ∧ ∃ url, Rules.optionalText request.extensions "repoURL" = .ok (some url) ∧
      buildRepository home request url = .ok repository := by
  obtain ⟨name, named, found⟩ := Outcome.bind_eq_ok.mp found
  obtain ⟨url, addressed, found⟩ := Outcome.bind_eq_ok.mp found
  rcases name with _ | name
  · rcases url with _ | url
    · cases found
    · obtain ⟨made, built, found⟩ := Outcome.bind_eq_ok.mp found
      cases found
      exact ⟨rfl, url, addressed, built⟩
  · obtain ⟨-, -, found⟩ := Outcome.bind_eq_ok.mp found
    cases found

/-! What each operation leaves. -/

section

variable {home : String} {now : Time.Instant} {objects : Objects} (h : Sourced objects)

/-- An operation leaves every kustomization and every repository matched. -/
abbrev KeepsSourced {α : Type} (now : Time.Instant) (objects : Objects) (p : Program α) : Prop :=
  p.Ensures .objects now objects fun _ after => Sourced after

include h

private theorem keepsSourced_done {α : Type} (outcome : Outcome α) :
    KeepsSourced now objects (.done outcome) :=
  Program.Ensures.done h

/-- A kustomization that is not there yet can be put in place without a repository. -/
private theorem sourced_insert_kustomization {request : DeploymentRequest} {new : Json}
    (free : objects.get? (Store.key kustomizationKind home request.name) = none)
    (kept : Kept home request.name new) :
    Sourced (objects.insert (Store.key kustomizationKind home request.name) new) := by
  have apart := Store.key_ne_of_plural
    (by decide : gitRepositoryKind.plural ≠ kustomizationKind.plural) home home request.name
      request.name
  refine h.elsewhere home request.name (fun key away _ =>
    SortedMap.get?_insert_of_ne _ away _) ?_
  rw [SortedMap.get?_insert_self, SortedMap.get?_insert_of_ne _ apart, h.repository_free free]
  exact .alone kept

/-- A kustomization can be put in place beside its new repository. -/
private theorem sourced_insert_pair {name : String} {kustomization repository : Json}
    (kept : Kept home name kustomization)
    (source : sourceRef .kustomization kustomization = repositoryRef home name)
    (owned : Owned name repository) :
    Sourced ((objects.insert (Store.key gitRepositoryKind home name) repository).insert
      (Store.key kustomizationKind home name) kustomization) := by
  have apart := Store.key_ne_of_plural
    (by decide : gitRepositoryKind.plural ≠ kustomizationKind.plural) home home name name
  refine h.elsewhere home name (fun key away away' => ?_) ?_
  · rw [SortedMap.get?_insert_of_ne _ away, SortedMap.get?_insert_of_ne _ away']
  · rw [SortedMap.get?_insert_self, SortedMap.get?_insert_of_ne _ apart, SortedMap.get?_insert_self]
    refine ⟨?_, ?_, fun _ => ⟨kustomization, rfl, source⟩⟩
    · rintro _ ⟨⟩
      exact kept
    · rintro _ ⟨⟩
      exact owned

private theorem sourced_erase_repository («namespace» name : String) :
    Sourced (objects.erase (Store.key gitRepositoryKind «namespace» name)) := by
  have apart := Store.key_ne_of_plural
    (by decide : kustomizationKind.plural ≠ gitRepositoryKind.plural) «namespace» «namespace» name
      name
  refine h.elsewhere «namespace» name (fun key _ away =>
    SortedMap.get?_erase_of_ne _ away) ?_
  rw [SortedMap.get?_erase_self, SortedMap.get?_erase_of_ne _ apart]
  exact ⟨(h «namespace» name).kept, nofun, fun ne => absurd rfl ne⟩

private theorem keepsSourced_createKustomization {request : DeploymentRequest}
    (named : request.name ≠ "") :
    KeepsSourced now objects (createKustomization home now request) := by
  refine .check (fun _ _ => h) fun ⟨source, repository⟩ found => ?_
  refine .check (fun _ _ => h) fun kustomization built => ?_
  refine .connect h ?_
  have name := nameOf_buildKustomization built
  rcases repository with _ | repository
  · refine .create (fun error => ?_) fun store new free made => ?_
    · refine .check (fun _ _ => h) fun url _ => ?_
      -- Whatever the undoing removes, a repository can always go.
      split
      · refine .delete (fun _ => keepsSourced_done h _) fun _ _ => ?_
        exact keepsSourced_done (sourced_erase_repository h home source) _
      · exact keepsSourced_done h _
    · rw [name] at free ⊢
      obtain ⟨kept, -⟩ := kept_created built now store
      exact keepsSourced_done (sourced_insert_kustomization h free (made ▸ kept)) _
  · obtain ⟨rfl, url, addressed, built'⟩ := newSource_made found
    have name' := nameOf_buildRepository built'
    refine .create (fun error => keepsSourced_done h _) fun store repository' free made => ?_
    have owned := owned_created built' named now store
    rw [← made] at owned
    rw [name'] at free ⊢
    refine .create (fun error => ?_) fun store' new _ made' => ?_
    · refine .check (fun _ failed => ?_) fun url' again => ?_
      · rw [addressed] at failed
        cases failed
      rw [addressed] at again
      cases again
      have undo : ((some url).isSome && request.name == request.name) = true := by simp
      rw [if_pos undo]
      refine .delete (fun absent => ?_) fun _ _ => ?_
      · rw [SortedMap.get?_insert_self] at absent
        cases absent
      · rw [SortedMap.erase_insert_of_get?_eq_none free]
        exact keepsSourced_done h _
    · rw [name]
      obtain ⟨kept, source⟩ := kept_created built now store'
      rw [← made'] at kept source
      exact keepsSourced_done (sourced_insert_pair h kept source owned) _

theorem keepsSourced_createDeployment (request : DeploymentRequest) :
    KeepsSourced now objects (createDeployment home now request) := by
  refine .checkpoint h ?_
  refine .check (fun _ _ => h) fun _ named => ?_
  refine .check (fun _ _ => h) fun _ _ => ?_
  refine .check (fun _ _ => h) fun kind _ => ?_
  cases kind with
  | kustomization => exact keepsSourced_createKustomization h (Rules.ne_empty_of_checkName named)
  | helmRelease =>
    refine .check (fun _ _ => h) fun release built => ?_
    refine .connect h ?_
    refine .create (fun error => keepsSourced_done h _) fun store new _ _ => ?_
    exact keepsSourced_done h.insert_helmRelease _

/-- A kustomization can be replaced by one that is alike. -/
private theorem sourced_replace_kustomization {name : String} {object new : Json}
    (stored : objects.get? (Store.key kustomizationKind home name) = some object)
    (alike : Alike new object) :
    Sourced (objects.insert (Store.key kustomizationKind home name) new) := by
  have apart := Store.key_ne_of_plural
    (by decide : gitRepositoryKind.plural ≠ kustomizationKind.plural) home home name name
  have matched := h home name
  rw [stored] at matched
  refine h.elsewhere home name (fun key away _ => SortedMap.get?_insert_of_ne _ away _) ?_
  rw [SortedMap.get?_insert_self, SortedMap.get?_insert_of_ne _ apart]
  exact matched.replace alike

/-- To rewrite a stored object keeps everything matched, if a kustomization stays alike. -/
private theorem keepsSourced_rewrite {operation name : String} {kind : FluxKind} {object : Json}
    {change : Json → Outcome Json}
    (stored : objects.get? (Store.key kind.resource home name) = some object)
    (alike : kind = .kustomization → ∀ changed, change object = .ok changed → Alike changed object) :
    KeepsSourced now objects ((fluxRewrite home now operation kind change).program object) := by
  refine Rewrite.ensures_program (fun _ => h) fun store changed current new run found made => ?_
  cases kind with
  | helmRelease => exact h.insert_helmRelease
  | kustomization =>
    obtain ⟨between, first, asked⟩ := Outcome.bind_eq_ok.mp run
    cases asked
    have same := (alike_requestReconcile now between).trans (alike rfl between first)
    have kept := (h home name).kept object stored
    have named := same.nameOf.trans kept.named
    have placed : Alike new object := by
      rw [made]
      exact ((alike_written _ _).trans (alike_succeeding _ _)).trans same
    rw [named]
    exact sourced_replace_kustomization h stored placed

private theorem keepsSourced_search {β : Type} {operation id : String} {check : Outcome β}
    {go : β → FluxKind → Json → Program Deployment}
    (goes : ∀ b kind name object,
      objects.get? (Store.key kind.resource home name) = some object →
      KeepsSourced now objects (go b kind object)) :
    KeepsSourced now objects (fluxSearch home operation id check go).program := by
  refine Search.ensures_program (fun _ => h) fun places asked place mem object stored => ?_
  obtain ⟨b, kind, name, -, -, rfl⟩ := fluxSearch_places home asked
  obtain ⟨kind, -, rfl⟩ := List.mem_map.mp mem
  exact goes b kind name object stored

theorem keepsSourced_updateDeployment (id : String) (update : DeploymentUpdate) :
    KeepsSourced now objects (updateDeployment home now id update) := by
  have search := Operation.program_eq_search now (.fluxUpdate home id update)
  change updateDeployment home now id update = _ at search
  rw [search]
  refine keepsSourced_search h fun asked kind name object stored => ?_
  refine keepsSourced_rewrite h stored ?_
  rintro rfl changed run
  exact alike_applyUpdate run

theorem keepsSourced_scaleDeployment (id : String) (replicas : Int32) :
    KeepsSourced now objects (scaleDeployment home now id replicas) := by
  have search := Operation.program_eq_search now (.fluxScale home id replicas)
  change scaleDeployment home now id replicas = _ at search
  rw [search]
  refine keepsSourced_search h fun asked kind name object stored => ?_
  refine keepsSourced_rewrite h stored ?_
  rintro rfl changed run
  cases run

/-- No kustomization was ever applied, so none is rolled back. -/
theorem keepsSourced_rollbackDeployment (id : String) (revision : Int64) :
    KeepsSourced now objects (rollbackDeployment home now id revision) := by
  have search := Operation.program_eq_search now (.fluxRollback home id revision)
  change rollbackDeployment home now id revision = _ at search
  rw [search]
  refine keepsSourced_search h fun asked kind name object stored => ?_
  cases kind with
  | helmRelease => exact keepsSourced_rewrite h stored nofun
  | kustomization =>
    have unapplied := ((h home name).kept object stored).unapplied
    change KeepsSourced now objects (Operation.rollbackKustomization now home id revision object)
    rw [rollbackKustomization_eq, if_pos unapplied]
    exact keepsSourced_done h _

end

end Flux

end DeploymentGateway
