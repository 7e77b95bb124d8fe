import DeploymentGateway.Proofs.Flux.Source
/-!
What is left after a deletion. A repository that was made with a kustomization goes with it, whoever else
is applied from it by then. So a deletion takes exactly the deployment and such a repository, and what
loses its source by it is what named that repository as its own source.
-/

set_option autoImplicit false

namespace DeploymentGateway.Flux

open Cluster OnCluster

/-- An id addresses an object: the first one of its name, in the order of the kinds that it may mean. -/
def Addressed (home id : String) (objects : Objects) (kind : FluxKind) (object : Json) : Prop :=
  ∃ wanted name, parseId id = .ok (wanted, name) ∧
    (fluxKinds wanted).find? (fun kind =>
      (objects.get? (Store.key kind.resource home name)).isSome) = some kind ∧
    objects.get? (Store.key kind.resource home name) = some object

/-- A deployment is a kustomization that is applied from the repository of its own name. -/
def OwnsSource (home : String) (kind : FluxKind) (object : Json) : Prop :=
  kind = .kustomization ∧ sourceRef .kustomization object = repositoryRef home (nameOf object)

/-- What a deletion leaves: everything but the deployment and, where it has one, its own repository. -/
structure Deleted (home : String) (objects after : Objects) (kind : FluxKind) (object : Json) :
    Prop where
  owner : OwnsSource home kind object →
    after = (objects.erase (Store.key kind.resource home (nameOf object))).erase
      (Store.key gitRepositoryKind home (nameOf object))
  other : ¬ OwnsSource home kind object →
    after = objects.erase (Store.key kind.resource home (nameOf object))

section

variable {home id : String} {now : Time.Instant} {objects : Objects}

private theorem ensures_firstOf (operation name : String) (kinds : List FluxKind) :
    (firstOf home operation id name kinds).Ensures .objects now objects fun outcome after =>
      after = objects ∧ ∀ kind object, outcome = .ok (kind, object) →
        kinds.find? (fun kind => (objects.get? (Store.key kind.resource home name)).isSome) =
            some kind ∧
          objects.get? (Store.key kind.resource home name) = some object := by
  induction kinds with
  | nil => exact Program.Ensures.done ⟨rfl, nofun⟩
  | cons first rest ih =>
    refine .get (fun absent => ?_) fun object found => ?_
    · refine ih.mono fun outcome after ⟨same, found⟩ => ⟨same, fun kind object ended => ?_⟩
      have further := found kind object ended
      rwa [List.find?_cons_of_neg (by simp [absent])]
    · refine Program.Ensures.done ⟨rfl, ?_⟩
      rintro kind object ⟨⟩
      exact ⟨List.find?_cons_of_pos (by simp [found]), found⟩

theorem ensures_resolve {operation : String} :
    (resolve home operation id).Ensures .objects now objects fun outcome after =>
      after = objects ∧ ∀ kind object, outcome = .ok (kind, object) →
        Addressed home id objects kind object := by
  refine .check (fun _ _ => ⟨rfl, nofun⟩) fun ⟨wanted, name⟩ parsed => ?_
  refine .connect ⟨rfl, nofun⟩ ?_
  have searched : (firstOf home operation id name (fluxKinds wanted)).Ensures .objects now objects
      fun outcome after => after = objects ∧ ∀ kind object, outcome = .ok (kind, object) →
        Addressed home id objects kind object :=
    (ensures_firstOf operation name (fluxKinds wanted)).mono fun _ _ ⟨same, found⟩ =>
      ⟨same, fun kind object ended => ⟨wanted, name, parsed, found kind object ended⟩⟩
  cases wanted with
  | none => exact searched
  | some kind => exact searched

/-- Of the repository of its own name and label a deleted kustomization is the owner, if it is applied
from that; any other repository is labelled with another name. -/
private theorem ensures_removeOwnedSource {name : String} {object : Json} (h : Sourced objects)
    {left : Objects}
    (repositories : ∀ «namespace» name, left.get? (Store.key gitRepositoryKind «namespace» name) =
      objects.get? (Store.key gitRepositoryKind «namespace» name))
    (kept : Kept home name object) :
    (removeOwnedSource name object).Ensures .objects now left fun outcome after =>
      outcome = .ok () ∧
        (sourceRef .kustomization object = repositoryRef home name →
          after = left.erase (Store.key gitRepositoryKind home name)) ∧
        (sourceRef .kustomization object ≠ repositoryRef home name → after = left) := by
  rcases source : sourceRef .kustomization object with ⟨kind, space, other⟩
  obtain rfl : kind = gitRepositoryKind.kind := by
    rw [← kept.repository, source]
  obtain rfl : space = home := by
    rw [← kept.home, source]
  have same : (⟨gitRepositoryKind.kind, space, other⟩ : SourceRef) = repositoryRef space name ↔
      other = name := by
    simp [repositoryRef]
  have isRepository : ((⟨gitRepositoryKind.kind, space, other⟩ : SourceRef).kind ==
      gitRepositoryKind.kind) = true := by
    simp
  simp only [removeOwnedSource, source, ne_eq, same]
  rw [if_pos isRepository]
  refine .get (fun absent => ?_) fun repository found => ?_
  · refine Program.Ensures.done ⟨rfl, ?_, fun _ => rfl⟩
    rintro rfl
    exact (SortedMap.erase_of_get?_eq_none absent).symm
  · rw [repositories] at found
    have label := ((h space other).owned repository found).label
    dsimp only
    rw [label]
    by_cases own : other = name
    · subst own
      have labelled : (some other == some other) = true := by simp
      rw [if_pos labelled]
      refine .delete (fun absent => ?_) fun _ _ => ?_
      · rw [repositories, found] at absent
        cases absent
      · exact Program.Ensures.done ⟨rfl, fun _ => rfl, fun ne => absurd rfl ne⟩
    · have foreign : ¬ (some other == some name) = true := by simpa using own
      rw [if_neg foreign]
      exact Program.Ensures.done ⟨rfl, fun same => absurd same own, fun _ => rfl⟩

/-- A deletion that succeeds takes the addressed object and the repository that it owns; one that fails
takes nothing. -/
theorem ensures_deleteDeployment (h : Sourced objects)
    (named : ∀ key object, objects.get? key = some object → nameOf object = key.name) :
    (deleteDeployment home id).Ensures .objects now objects fun outcome after =>
      (∀ failure, outcome = .error failure → after = objects) ∧
        (outcome = .ok () → ∃ kind object, Addressed home id objects kind object ∧
          Deleted home objects after kind object) := by
  refine .checkpoint ⟨fun _ _ => rfl, nofun⟩ ?_
  refine ensures_resolve.bind ?_ fun failure after found => ⟨fun _ _ => found.1, nofun⟩
  rintro ⟨kind, object⟩ between ⟨same, found⟩
  obtain rfl := same.symm
  have addressed := found kind object rfl
  obtain ⟨wanted, name, -, -, stored⟩ := found kind object rfl
  obtain rfl : nameOf object = name := named _ object stored
  refine .connect ⟨fun _ _ => rfl, nofun⟩ ?_
  refine .delete (fun absent => ?_) fun _ _ => ?_
  · rw [stored] at absent
    cases absent
  cases kind with
  | helmRelease =>
    have left : Deleted home objects
        (objects.erase (Store.key helmReleaseKind home (nameOf object))) .helmRelease object :=
      ⟨fun owns => (nomatch owns.1), fun _ => rfl⟩
    exact Program.Ensures.done ⟨nofun, fun _ => ⟨.helmRelease, object, addressed, left⟩⟩
  | kustomization =>
    have kept := (h home (nameOf object)).kept object stored
    have repositories («namespace» name : String) :
        (objects.erase (Store.key kustomizationKind home (nameOf object))).get?
            (Store.key gitRepositoryKind «namespace» name) =
          objects.get? (Store.key gitRepositoryKind «namespace» name) :=
      SortedMap.get?_erase_of_ne _ (Store.key_ne_of_plural (by decide) _ _ _ _)
    refine (ensures_removeOwnedSource h repositories kept).mono ?_
    rintro outcome after ⟨rfl, own, other⟩
    refine ⟨nofun, fun _ => ⟨.kustomization, object, addressed, ?_⟩⟩
    exact ⟨fun owns => own owns.2, fun foreign => other fun source => foreign ⟨rfl, source⟩⟩

private theorem sourced_erase_pair (h : Sourced objects) (name : String) :
    Sourced ((objects.erase (Store.key kustomizationKind home name)).erase
      (Store.key gitRepositoryKind home name)) := by
  have apart := Store.key_ne_of_plural
    (by decide : kustomizationKind.plural ≠ gitRepositoryKind.plural) home home name name
  refine h.elsewhere home name (fun key away away' => ?_) ?_
  · rw [SortedMap.get?_erase_of_ne _ away', SortedMap.get?_erase_of_ne _ away]
  · rw [SortedMap.get?_erase_self, SortedMap.get?_erase_of_ne _ apart, SortedMap.get?_erase_self]
    exact .nothing

private theorem sourced_erase_alone (h : Sourced objects) {name : String}
    (absent : objects.get? (Store.key gitRepositoryKind home name) = none) :
    Sourced (objects.erase (Store.key kustomizationKind home name)) := by
  have apart := Store.key_ne_of_plural
    (by decide : gitRepositoryKind.plural ≠ kustomizationKind.plural) home home name name
  refine h.elsewhere home name (fun key away _ => SortedMap.get?_erase_of_ne _ away) ?_
  rw [SortedMap.get?_erase_self, SortedMap.get?_erase_of_ne _ apart, absent]
  exact .nothing

/-- After a deletion no repository is without its kustomization. -/
theorem Deleted.sourced {after : Objects} {kind : FluxKind} {object : Json} (h : Sourced objects)
    (stored : objects.get? (Store.key kind.resource home (nameOf object)) = some object)
    (deleted : Deleted home objects after kind object) : Sourced after := by
  by_cases owns : OwnsSource home kind object
  · obtain rfl := owns.1
    rw [deleted.owner owns]
    exact sourced_erase_pair h (nameOf object)
  rw [deleted.other owns]
  cases kind with
  | helmRelease => exact h.erase_helmRelease
  | kustomization =>
    refine sourced_erase_alone h (Option.eq_none_iff_forall_ne_some.mpr fun repository present => ?_)
    -- The repository of the name would be the source of the kustomization that is deleted.
    have matched := h home (nameOf object)
    rw [present] at matched
    obtain ⟨current, found, source⟩ := matched.applied (by simp)
    obtain rfl : current = object := Option.some.inj (found.symm.trans stored)
    exact owns ⟨rfl, source⟩

/-- Whatever the gateway does, every kustomization and every repository stay matched. -/
theorem sourced_of_reached {memory : Memory} (reached : Reached (operations home) memory) :
    Sourced memory.cluster.objects := by
  induction reached with
  | empty => exact fun _ _ => .nothing
  | @run memory after now action outcome reached run h =>
    have keeps {α : Type} {p : Program α} {outcome : Outcome α}
        (kept : KeepsSourced now memory.cluster.objects p) (run : p.Runs now memory outcome after) :
        Sourced after.cluster.objects :=
      kept memory outcome after rfl run
    by_cases reads : action.reads = true
    · have same : after.cluster.objects = memory.cluster.objects :=
        (readOnly_action home now reads).read_of_runs .objects run
      exact same ▸ h
    cases action with
    | createDeployment request => exact keeps (keepsSourced_createDeployment h request) run
    | updateDeployment id update => exact keeps (keepsSourced_updateDeployment h id update) run
    | scaleDeployment id replicas => exact keeps (keepsSourced_scaleDeployment h id replicas) run
    | rollbackDeployment id revision =>
      exact keeps (keepsSourced_rollbackDeployment h id revision) run
    | deleteDeployment id =>
      have named (key : ObjectKey) (object : Json)
          (stored : memory.cluster.objects.get? key = some object) : nameOf object = key.name :=
        reached.reachable.nameOf_eq stored
      obtain ⟨failed, succeeded⟩ := ensures_deleteDeployment h named memory outcome after rfl run
      rcases outcome with failure | ⟨⟩
      · have same : after.cluster.objects = memory.cluster.objects := failed failure rfl
        exact same ▸ h
      · obtain ⟨kind, object, ⟨wanted, name, -, -, stored⟩, deleted⟩ := succeeded rfl
        obtain rfl : nameOf object = name := named _ object stored
        exact deleted.sourced h stored
    | uploadPackage upload =>
      have reads : (uploadPackage upload).ReadOnly := by simp [uploadPackage]
      have same : after.cluster.objects = memory.cluster.objects :=
        reads.read_of_runs .objects run
      exact same ▸ h
    | deletePackage id =>
      have reads : (deletePackage id).ReadOnly := by simp [deletePackage]
      have same : after.cluster.objects = memory.cluster.objects :=
        reads.read_of_runs .objects run
      exact same ▸ h
    | _ => exact absurd rfl reads

variable {memory after : Memory}

/-- No repository leaks: in every state that the gateway can get into, each is labelled with its own
name, and a kustomization of that name is there and is applied from it. -/
theorem repository_of_reached (reached : Reached (operations home) memory)
    {«namespace» name : String} {repository : Json}
    (stored : memory.cluster.object? gitRepositoryKind «namespace» name = some repository) :
    nameOf repository = name ∧ (labelsOf repository).get? ownerLabel = some name ∧
      ∃ kustomization,
        memory.cluster.object? kustomizationKind «namespace» name = some kustomization ∧
          nameOf kustomization = name ∧
          sourceRef .kustomization kustomization = ⟨gitRepositoryKind.kind, «namespace», name⟩ := by
  have matched := sourced_of_reached reached «namespace» name
  obtain ⟨named, label⟩ := matched.owned repository stored
  have present : memory.cluster.objects.get? (Store.key gitRepositoryKind «namespace» name) ≠ none := by
    intro absent
    cases stored.symm.trans absent
  obtain ⟨kustomization, found, source⟩ := matched.applied present
  exact ⟨named, label, kustomization, found, (matched.kept kustomization found).named, source⟩

end

/-- A kustomization that is made together with its repository. -/
def ownSource : DeploymentRequest where
  name := "web"
  «namespace» := "shop"
  packageId := none
  values := .empty
  labels := .empty
  extensions := .ofList [("repoURL", .string "https://git/web")]

/-- A kustomization that is applied from that repository too. -/
def sharedSource : DeploymentRequest where
  name := "api"
  «namespace» := "shop"
  packageId := none
  values := .empty
  labels := .empty
  extensions := .ofList [("sourceName", .string "web")]

/-- The memory after both were made. -/
def sharing : Memory :=
  ((createDeployment "flux-system" ⟨1, 0⟩ sharedSource).runInMemory ⟨1, 0⟩
    ((createDeployment "flux-system" ⟨0, 0⟩ ownSource).runInMemory ⟨0, 0⟩ .empty).2).2

private theorem reached_sharing : Reached (operations "flux-system") sharing :=
  (Reached.empty.runInMemory ⟨0, 0⟩ (.createDeployment ownSource)).runInMemory ⟨1, 0⟩
    (.createDeployment sharedSource)

/-- The repository that both are applied from is that of the first. -/
theorem repository_of_reached_sharing :
    ∃ repository,
      sharing.cluster.object? gitRepositoryKind "flux-system" "web" = some repository ∧
        nameOf repository = "web" ∧ (labelsOf repository).get? ownerLabel = some "web" ∧
        ∃ kustomization,
          sharing.cluster.object? kustomizationKind "flux-system" "web" = some kustomization ∧
            nameOf kustomization = "web" ∧
            sourceRef .kustomization kustomization =
              ⟨gitRepositoryKind.kind, "flux-system", "web"⟩ := by
  have present :
      (sharing.cluster.object? gitRepositoryKind "flux-system" "web").isSome = true := by
    decide +kernel
  obtain ⟨repository, stored⟩ := Option.isSome_iff_exists.mp present
  exact ⟨repository, stored, repository_of_reached reached_sharing stored⟩

/-- Something that is stored is applied from a repository. -/
def Referenced (objects : Objects) («namespace» name : String) : Prop :=
  ∃ (kind : FluxKind) (space other : String) (object : Json),
    objects.get? (Store.key kind.resource space other) = some object ∧
      sourceRef kind object = repositoryRef «namespace» name

/-- Besides one object nothing is gone but repositories that nothing is applied from. -/
def SparesReferenced (deleted : ObjectKey) (before after : Objects) : Prop :=
  ∀ key, before.get? key ≠ none → after.get? key = none →
    key = deleted ∨ ∃ «namespace» name, key = Store.key gitRepositoryKind «namespace» name ∧
      ¬ Referenced after «namespace» name

/-- A deletion takes the addressed deployment and its own repository, and nothing else. It spares all that
others are applied from, unless these are applied from that repository. -/
theorem objects_of_deleteDeployment {home id : String} {now : Time.Instant} {memory after : Memory}
    (reached : Reached (operations home) memory)
    (run : (deleteDeployment home id).Runs now memory (.ok ()) after) :
    ∃ kind object, Addressed home id memory.cluster.objects kind object ∧
      Deleted home memory.cluster.objects after.cluster.objects kind object ∧
      (SparesReferenced (Store.key kind.resource home (nameOf object)) memory.cluster.objects
          after.cluster.objects ↔
        ¬ (OwnsSource home kind object ∧
          memory.cluster.object? gitRepositoryKind home (nameOf object) ≠ none ∧
          Referenced after.cluster.objects home (nameOf object))) := by
  have named (key : ObjectKey) (object : Json)
      (stored : memory.cluster.objects.get? key = some object) : nameOf object = key.name :=
    reached.reachable.nameOf_eq stored
  have kept := ensures_deleteDeployment (sourced_of_reached reached) named memory _ after rfl run
  obtain ⟨kind, object, addressed, deleted⟩ :
      ∃ kind object, Addressed home id memory.cluster.objects kind object ∧
        Deleted home memory.cluster.objects after.cluster.objects kind object := kept.2 rfl
  refine ⟨kind, object, addressed, deleted, ?_, ?_⟩
  · rintro spares ⟨owns, present, referenced⟩
    have gone : after.cluster.objects.get? (Store.key gitRepositoryKind home (nameOf object)) =
        none := by
      rw [deleted.owner owns, SortedMap.get?_erase_self]
    rcases spares _ present gone with same | ⟨space, name, same, free⟩
    · obtain rfl := owns.1
      exact Store.key_ne_of_plural (by decide : gitRepositoryKind.plural ≠ kustomizationKind.plural)
        _ _ _ _ same
    · obtain ⟨rfl, rfl⟩ : home = space ∧ nameOf object = name := by
        simpa [Store.key, gitRepositoryKind] using same
      exact free referenced
  · intro spared key present gone
    by_cases deployment : key = Store.key kind.resource home (nameOf object)
    · exact .inl deployment
    by_cases owns : OwnsSource home kind object
    · rw [deleted.owner owns] at gone
      by_cases repository : key = Store.key gitRepositoryKind home (nameOf object)
      · subst repository
        exact .inr ⟨home, nameOf object, rfl, fun referenced => spared ⟨owns, present, referenced⟩⟩
      · rw [SortedMap.get?_erase_of_ne _ repository, SortedMap.get?_erase_of_ne _ deployment] at gone
        exact absurd gone present
    · rw [deleted.other owns, SortedMap.get?_erase_of_ne _ deployment] at gone
      exact absurd gone present

/-- The memory after the first of the two was deleted. -/
def bereft : Memory :=
  ((deleteDeployment "flux-system" "kustomization:web").runInMemory ⟨2, 0⟩ sharing).2

private theorem runs_bereft :
    (deleteDeployment "flux-system" "kustomization:web").Runs ⟨2, 0⟩ sharing (.ok ()) bereft := by
  have succeeds : ((deleteDeployment "flux-system" "kustomization:web").runInMemory ⟨2, 0⟩
      sharing).1 = .ok () := by
    rfl
  rw [← succeeds]
  exact Program.runs_runInMemory _ sharing

/-- The second one is still applied from the repository that is gone. -/
private theorem referenced_bereft :
    Referenced bereft.cluster.objects "flux-system" "web" :=
  ⟨.kustomization, "flux-system", "api", _, rfl, rfl⟩

/-- To delete the first takes the repository with it, since it is the owner. -/
theorem objects_of_deleteDeployment_sharing :
    ∃ kind object,
      Addressed "flux-system" "kustomization:web" sharing.cluster.objects kind object ∧
        Deleted "flux-system" sharing.cluster.objects bereft.cluster.objects kind object ∧
        (SparesReferenced (Store.key kind.resource "flux-system" (nameOf object))
            sharing.cluster.objects bereft.cluster.objects ↔
          ¬ (OwnsSource "flux-system" kind object ∧
            sharing.cluster.object? gitRepositoryKind "flux-system" (nameOf object) ≠ none ∧
            Referenced bereft.cluster.objects "flux-system" (nameOf object))) :=
  objects_of_deleteDeployment reached_sharing runs_bereft

/-- Not every deletion spares what others are applied from. -/
theorem deleteDeployment_takes_referenced_source :
    ∃ memory after, Reached (operations "flux-system") memory ∧
      (deleteDeployment "flux-system" "kustomization:web").Runs ⟨2, 0⟩ memory (.ok ()) after ∧
      ¬ SparesReferenced (Store.key kustomizationKind "flux-system" "web") memory.cluster.objects
        after.cluster.objects := by
  refine ⟨sharing, bereft, reached_sharing, runs_bereft, fun spares => ?_⟩
  have present : sharing.cluster.objects.get?
      (Store.key gitRepositoryKind "flux-system" "web") ≠ none := by
    rw [Option.ne_none_iff_isSome]
    decide +kernel
  have gone : bereft.cluster.objects.get? (Store.key gitRepositoryKind "flux-system" "web") =
      none := by
    rw [← Option.isNone_iff_eq_none]
    decide +kernel
  rcases spares _ present gone with same | ⟨space, name, same, free⟩
  · exact Store.key_ne_of_plural (by decide : gitRepositoryKind.plural ≠ kustomizationKind.plural)
      _ _ _ _ same
  · obtain ⟨rfl, rfl⟩ : "flux-system" = space ∧ "web" = name := by
      simpa [Store.key, gitRepositoryKind] using same
    exact free referenced_bereft

end DeploymentGateway.Flux
