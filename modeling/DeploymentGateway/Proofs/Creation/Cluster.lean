import DeploymentGateway.Proofs.Footprint.Flux
/-!
What a creation that succeeds has done in the cluster. It has put the object that is built for its request in a
place that was free, and a kustomization may have got a repository of its name beside it, whose place was free
too.
-/

set_option autoImplicit false

namespace DeploymentGateway

open Cluster

/-- An object of a name has been made as it was asked for, in a place that was free. -/
structure Made (now : Time.Instant) (kind : ResourceKind) (home name : String) (asked : Json)
    (objects after : Objects) (new : Json) : Prop where
  free : objects.get? (Store.key kind home name) = none
  placed : after = objects.insert (Store.key kind home name) new
  written : ∃ store : Store, new = store.written (Store.admitted now kind home asked)

namespace Made

variable {now : Time.Instant} {kind : ResourceKind} {home name : String} {asked new : Json}
  {objects after : Objects} (made : Made now kind home name asked objects after new)

include made

theorem conveys {request : DeploymentRequest} {layout : Layout} {values : List (String × Json)}
    (asks : Conveys request layout values asked) : Conveys request layout values new := by
  obtain ⟨store, rfl⟩ := made.written
  exact asks.written_admitted now kind home store

/-- The object has the time of its making, in writing. -/
theorem createdAt_eq : createdAt new = Time.readStrict? now.textWithOffset := by
  obtain ⟨store, rfl⟩ := made.written
  rw [createdAt, timeAt, Json.string?At, Store.written, Store.admitted,
    Json.lookup_set_of_names (by simp) (by decide), Json.lookup_set_of_names (by simp) (by decide),
    Json.lookup_set_self, Option.bind_some, Json.string?, Option.bind_some]

/-- The cluster leaves the specification of an object alone when it takes it in. -/
theorem lookup_spec {path : Json.Path}
    (names : ∀ segment ∈ path, Text.readNatural? Json.greatestIndex segment = none) :
    new.lookup ("spec" :: path) = asked.lookup ("spec" :: path) := by
  obtain ⟨store, rfl⟩ := made.written
  have named : ∀ segment ∈ "spec" :: path, Text.readNatural? Json.greatestIndex segment = none :=
    List.forall_mem_cons.mpr ⟨by decide, names⟩
  have placed : (if kind.namespaced then asked.set (.string home) ["metadata", "namespace"]
      else asked).lookup ("spec" :: path) = asked.lookup ("spec" :: path) := by
    split
    · exact Json.lookup_set_of_names (by simp) named _ _
    · rfl
  rw [Store.written, Store.admitted]
  simp [Json.lookup_set_of_names _ named, placed]

theorem stored : after.get? (Store.key kind home name) = some new := by
  rw [made.placed, SortedMap.get?_insert_self]

theorem elsewhere {key : ObjectKey} (ne : key ≠ Store.key kind home name) :
    after.get? key = objects.get? key := by
  rw [made.placed, SortedMap.get?_insert_of_ne _ ne]

/-- To remove the object brings back what was there before. -/
theorem erase_eq : after.erase (Store.key kind home name) = objects := by
  rw [made.placed, SortedMap.erase_insert_of_get?_eq_none made.free]

end Made

variable {now : Time.Instant} {objects : Objects} {request : DeploymentRequest}

theorem Application.OnCluster.ensures_createDeployment {home : String} :
    (createDeployment home now request).Ensures .objects now objects fun outcome after =>
      ∀ deployment, outcome = .ok deployment → ∃ app new, build home request = .ok app ∧
        Made now kind home request.name app objects after new ∧ deployment = toDeployment now new := by
  refine .checkpoint nofun (.check (fun _ _ => nofun) fun app built => .connect nofun ?_)
  have named := (conveys_of_build built).named
  refine .create (fun _ => .done nofun) fun store new free written => .done ?_
  rw [named] at free ⊢
  rintro _ ⟨⟩
  exact ⟨app, new, built, ⟨free, rfl, store, written⟩, rfl⟩

theorem Composite.OnCluster.ensures_createDeployment {kind : ResourceKind} :
    (createDeployment kind now request).Ensures .objects now objects fun outcome after =>
      ∀ deployment, outcome = .ok deployment → ∃ composite new, build kind request = .ok composite ∧
        Made now kind "" request.name composite objects after new ∧
          deployment = toDeployment now new := by
  refine .checkpoint nofun (.check (fun _ _ => nofun) fun composite built => .connect nofun ?_)
  have named := (conveys_of_build built).named
  refine .create (fun _ => .done nofun) fun store new free written => .done ?_
  rw [named] at free ⊢
  rintro _ ⟨⟩
  exact ⟨composite, new, built, ⟨free, rfl, store, written⟩, rfl⟩

namespace Flux

open OnCluster

/-- What a creation that succeeds has made: a kustomization alone, one together with its repository, or a
helm release. -/
inductive Created (home : String) (now : Time.Instant) (request : DeploymentRequest)
    (objects : Objects) : FluxKind → Json → Objects → Prop where
  | kustomization {source : String} {object new : Json} {after : Objects}
    (found : newSource home request = .ok (source, none))
    (built : buildKustomization home request source = .ok object)
    (made : Made now FluxKind.kustomization.resource home request.name object objects after new) :
    Created home now request objects .kustomization new after
  | sourced {repository object placed new : Json} {between after : Objects}
    (found : newSource home request = .ok (request.name, some repository))
    (built : buildKustomization home request request.name = .ok object)
    (source : Made now gitRepositoryKind home request.name repository objects between placed)
    (made : Made now FluxKind.kustomization.resource home request.name object between after new) :
    Created home now request objects .kustomization new after
  | helmRelease {object new : Json} {after : Objects}
    (built : buildHelmRelease home request = .ok object)
    (made : Made now FluxKind.helmRelease.resource home request.name object objects after new) :
    Created home now request objects .helmRelease new after

private theorem ensures_createKustomization {home : String} :
    (createKustomization home now request).Ensures .objects now objects fun outcome after =>
      ∀ deployment, outcome = .ok deployment → ∃ new,
        Created home now request objects .kustomization new after ∧
          deployment = toDeployment now .kustomization new := by
  refine .check (fun _ _ => nofun) fun ⟨source, repository⟩ found => ?_
  refine .check (fun _ _ => nofun) fun object built => .connect nofun ?_
  have named := nameOf_buildKustomization built
  have refused (error : ClusterError) (objects : Objects) : (do
      let url ← Program.ofOutcome (Rules.optionalText request.extensions "repoURL")
      if url.isSome && source == request.name then
        let _ ← Program.delete gitRepositoryKind home source
      Program.fail (.failed backend "create" request.name (.cluster error)) :
        Program Deployment).Ensures .objects now objects fun outcome _ =>
          ∀ deployment, outcome ≠ .ok deployment := by
    refine .check (fun _ _ => nofun) fun url _ => ?_
    split
    · exact .delete (fun _ => .done nofun) fun _ _ => .done nofun
    · exact .done nofun
  rcases repository with _ | repository
  · refine .create (fun error => ?_) fun store new free written => .done ?_
    · exact (refused error objects).mono fun _ _ ended deployment same =>
        absurd same (ended deployment)
    · rw [named] at free ⊢
      rintro _ ⟨⟩
      exact ⟨new, .kustomization found built ⟨free, rfl, store, written⟩, rfl⟩
  · obtain ⟨-, -, ⟨⟨⟩, -⟩ | ⟨rfl, -, -, _, ⟨⟩, own⟩⟩ := newSource_cases found
    refine .create (fun error => .done nofun) fun store placed free written => ?_
    refine .create (fun error => ?_) fun store' new free' written' => .done ?_
    · exact (refused error _).mono fun _ _ ended deployment same => absurd same (ended deployment)
    · rw [named] at free' ⊢
      rw [own] at free free' ⊢
      rintro _ ⟨⟩
      exact ⟨new, .sourced found built ⟨free, rfl, store, written⟩
        ⟨free', rfl, store', written'⟩, rfl⟩

private theorem ensures_createHelmRelease {home : String} :
    (createHelmRelease home now request).Ensures .objects now objects fun outcome after =>
      ∀ deployment, outcome = .ok deployment → ∃ new,
        Created home now request objects .helmRelease new after ∧
          deployment = toDeployment now .helmRelease new := by
  refine .check (fun _ _ => nofun) fun object built => .connect nofun ?_
  have named := nameOf_buildHelmRelease built
  refine .create (fun _ => .done nofun) fun store new free written => .done ?_
  rw [named] at free ⊢
  rintro _ ⟨⟩
  exact ⟨new, .helmRelease built ⟨free, rfl, store, written⟩, rfl⟩

theorem ensures_createDeployment {home : String} :
    (createDeployment home now request).Ensures .objects now objects fun outcome after =>
      ∀ deployment, outcome = .ok deployment → ∃ kind new,
        Rules.checkName "name" request.name = .ok () ∧
          Rules.checkName "namespace" request.namespace = .ok () ∧
          requestedKind request = .ok kind ∧ Created home now request objects kind new after ∧
          deployment = toDeployment now kind new := by
  refine .checkpoint nofun (.check (fun _ _ => nofun) fun _ checked => ?_)
  refine .check (fun _ _ => nofun) fun _ space => .check (fun _ _ => nofun) fun kind asked => ?_
  cases kind with
  | kustomization =>
    refine ensures_createKustomization.mono fun outcome after made deployment ended => ?_
    obtain ⟨new, created, rfl⟩ := made deployment ended
    exact ⟨.kustomization, new, checked, space, asked, created, rfl⟩
  | helmRelease =>
    refine ensures_createHelmRelease.mono fun outcome after made deployment ended => ?_
    obtain ⟨new, created, rfl⟩ := made deployment ended
    exact ⟨.helmRelease, new, checked, space, asked, created, rfl⟩

namespace Created

variable {home : String} {kind : FluxKind} {new : Json} {after : Objects}
  (created : Created home now request objects kind new after)

include created

/-- The object of the deployment is made last. -/
theorem made : ∃ between object, Made now kind.resource home request.name object between after new ∧
    Conveys request kind.layout (kind.keptValues request.values) object ∧
    ChangesOnly (· = Store.key gitRepositoryKind home request.name) objects between := by
  cases created with
  | kustomization found built made =>
    exact ⟨_, _, made, conveys_of_buildKustomization built, .refl _ _⟩
  | sourced found built source made =>
    exact ⟨_, _, made, conveys_of_buildKustomization built, fun key away => source.elsewhere away⟩
  | helmRelease built made => exact ⟨_, _, made, conveys_of_buildHelmRelease built, .refl _ _⟩

end Created

end Flux

end DeploymentGateway
