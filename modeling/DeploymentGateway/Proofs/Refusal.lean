import DeploymentGateway.Proofs.Refusal.Flux
import DeploymentGateway.Proofs.Refusal.Release
/-!
A refusal changes nothing. An operation that fails because of what it was asked, of what is there or of
a caller who gave up has changed neither an object nor a release: every check stands before the first
write, and what can go wrong after a write fails as a failure of the back end. One operation is different:
the rollback of a kustomization, when its caller gives up in the middle.
-/

set_option autoImplicit false

namespace DeploymentGateway

open Cluster

/-- A rollback of a kustomization is abandoned: it has come to its pin, and then its caller gives up
before the kustomization is written. -/
def Abandons (settings : Settings) (action : Action) (waits : Nat → Bool) (store : Store) : Prop :=
  ∃ home id revision object repository commit, settings = .flux home ∧
    action = .rollbackDeployment id revision ∧
    Flux.OnCluster.Pins home id revision store object repository commit ∧
    (waits 0 = true ∧ waits 1 = true ∧ waits 3 = true) ∧ waits 6 = false

namespace Flux.OnCluster

/-- What a write puts in place is not what was there before: it has a version of its own. -/
private theorem updated_objects_ne {before store : Store} (reachable : before.Reachable)
    (later : before.versions ≤ store.versions) (object repository new : Json) :
    (updated store object repository new).objects ≠ before.objects := by
  intro same
  have stored := updated_get?_self store object repository new
  rw [same] at stored
  obtain ⟨n, given, stamped⟩ := reachable.sound.stamped _ _ stored
  have unique := stamped.unique (Store.stamped_written store (Store.succeeding repository new))
  omega

theorem unchanged_of_rollbackDeployment {home id : String} {now : Time.Instant} {revision : Int64}
    {waits : Nat → Bool} {memory after : Memory} {failure : Failure} (refused : failure.IsRefusal)
    (reachable : memory.cluster.Reachable)
    (failed : (rollbackDeployment home now id revision).runFor now waits memory =
      (.error failure, after)) :
    after.releases = memory.releases ∧
      (after.cluster.objects = memory.cluster.objects ↔
        ¬ Abandons (.flux home) (.rollbackDeployment id revision) waits memory.cluster) := by
  by_cases pinnable : ∃ object repository commit,
      Pins home id revision memory.cluster object repository commit ∧
        waits 0 = true ∧ waits 1 = true ∧ waits 3 = true
  · obtain ⟨object, repository, commit, pins, waiting⟩ := pinnable
    have run := pins.run now waits reachable waiting
    simp only [failed] at run
    split at run
    · rename_i early
      have abandons : Abandons (.flux home) (.rollbackDeployment id revision) waits memory.cluster :=
        ⟨home, id, revision, object, repository, commit, rfl, rfl, pins, waiting, early⟩
      split at run
      · cases run
        exact ⟨rfl, iff_of_false (updated_objects_ne reachable (Nat.le_succ _) _ _ _)
          (not_not_intro abandons)⟩
      · cases run
        exact ⟨rfl, iff_of_false (updated_objects_ne reachable le_rfl _ _ _)
          (not_not_intro abandons)⟩
    split at run
    · cases run
      exact absurd rfl refused
    · obtain ⟨deployment, ended⟩ := run
      cases ended
  · rcases rollbackDeployment_error_cases now failed with rfl | reached
    · refine ⟨rfl, iff_of_true rfl ?_⟩
      rintro ⟨_, _, _, object, repository, commit, settings, action, pins, waiting, -⟩
      cases settings
      cases action
      exact pinnable ⟨object, repository, commit, pins, waiting⟩
    · exact absurd reached pinnable

end Flux.OnCluster

/-- What is true of an operation that keeps everything when it fails is also true of it in general. -/
private theorem unchanged_of_eq {settings : Settings} {action : Action} {waits : Nat → Bool}
    {memory after : Memory} (same : after = memory)
    (other : ∀ home id revision, settings = .flux home → action ≠ .rollbackDeployment id revision) :
    after.releases = memory.releases ∧
      (after.cluster.objects = memory.cluster.objects ↔
        ¬ Abandons settings action waits memory.cluster) := by
  subst same
  refine ⟨rfl, iff_of_true rfl ?_⟩
  rintro ⟨home, id, revision, _, _, _, flux, rollback, -⟩
  exact other home id revision flux rollback

/-- An operation that is refused, or whose caller gave up, has changed nothing: on the back ends in
memory neither an object nor a release, but for the rollback of a kustomization that is abandoned;
and no server has got a request but to read, unless what was asked for was not found. -/
theorem unchanged_of_refusal (settings : Settings) (now : Time.Instant) (action : Action)
    {failure : Failure} (refused : failure.IsRefusal) :
    (settings.kind ≠ .argocdRest → ∀ waits memory after, memory.cluster.Reachable →
      (action.program (settings.operations now)).runFor now waits memory =
        (.error failure, after) →
      after.releases = memory.releases ∧
        (after.cluster.objects = memory.cluster.objects ↔
          ¬ Abandons settings action waits memory.cluster)) ∧
    (settings.kind = .argocdRest → failure.kind ≠ .notFound → ∀ exchanges,
      (action.program (settings.operations now)).Trace exchanges (.error failure) →
      ∀ exchange ∈ exchanges, ∀ sent, exchange.1 = .request sent → sent.method = .get) := by
  constructor
  · intro inMemory waits memory after reachable failed
    cases settings with
    | argocd home =>
      have same := (Application.OnCluster.careful_action home now action).memory_eq refused failed
      exact unchanged_of_eq same nofun
    | argocdRest baseUrl tokenVariable home timeoutSeconds => exact absurd rfl inMemory
    | crossplane composite =>
      have same := (Composite.OnCluster.careful_action composite now action).memory_eq refused failed
      exact unchanged_of_eq same nofun
    | flux home =>
      by_cases rollback : ∃ id revision, action = .rollbackDeployment id revision
      · obtain ⟨id, revision, rfl⟩ := rollback
        exact Flux.OnCluster.unchanged_of_rollbackDeployment refused reachable failed
      · have other : ∀ id revision, action ≠ .rollbackDeployment id revision :=
          fun id revision same => rollback ⟨id, revision, same⟩
        have careful := Flux.OnCluster.careful_action home now other
        have same := careful.memory_eq refused failed
        exact unchanged_of_eq same fun _ id revision _ => other id revision
    | helm binary context =>
      by_cases rollback : ∃ id revision, action = .rollbackDeployment id revision
      · obtain ⟨id, revision, rfl⟩ := rollback
        have keeps := Release.OnManager.rollbackDeployment_keepsOnFailure now memory id revision
        exact unchanged_of_eq (keeps waits failure after failed) nofun
      · have other : ∀ id revision, action ≠ .rollbackDeployment id revision :=
          fun id revision same => rollback ⟨id, revision, same⟩
        have same := (Release.OnManager.careful_action now other).memory_eq refused failed
        exact unchanged_of_eq same nofun
  · intro rest found exchanges trace exchange mem sent request
    cases settings with
    | argocdRest baseUrl tokenVariable home timeoutSeconds =>
      have careful :=
        Application.OnServer.careful_action home (Settings.addressOf baseUrl) now action
      have kept := careful.not_changes ⟨refused, found⟩ trace exchange mem
      obtain ⟨c, reply⟩ := exchange
      cases request
      simpa using kept
    | argocd _ | crossplane _ | flux _ | helm _ _ => cases rest

/-- Kustomizations cannot be scaled, which shows when one was found; and a caller who gives up after an
application was read from its server has not had it written. -/
theorem unchanged_of_late_refusals :
    (∃ after, (Flux.OnCluster.scaleDeployment "flux-system" ⟨0, 0⟩ "web" 3).runFor ⟨0, 0⟩
        (fun _ => true) Flux.OnCluster.writable =
          (.error Flux.OnCluster.scaleUnsupported, after) ∧
        after.cluster.objects = Flux.OnCluster.writable.cluster.objects) ∧
      ∃ exchanges, ((Application.OnServer.updateDeployment "argocd" ⟨0, 0⟩ "web"
          ⟨none, .empty, .empty, .empty⟩).Trace exchanges (.error .cancelled)) ∧
        exchanges.length = 4 ∧
        ∀ exchange ∈ exchanges, ∀ sent, exchange.1 = .request sent → sent.method = .get := by
  constructor
  · have refused : Flux.OnCluster.scaleUnsupported.IsRefusal := nofun
    have reachable : Flux.OnCluster.writable.cluster.Reachable := .seed _ _ (.seed _ _ .empty)
    have failed : (Flux.OnCluster.scaleDeployment "flux-system" ⟨0, 0⟩ "web" 3).runFor ⟨0, 0⟩
      (fun _ => true) Flux.OnCluster.writable = (.error Flux.OnCluster.scaleUnsupported, _) := rfl
    have kept := (unchanged_of_refusal (.flux "flux-system") ⟨0, 0⟩ (.scaleDeployment "web" 3)
      refused).1 nofun _ _ _ reachable failed
    refine ⟨_, failed, kept.2.mpr ?_⟩
    rintro ⟨_, _, _, _, _, _, -, rollback, -⟩
    cases rollback
  · have refused : Failure.cancelled.IsRefusal := nofun
    have trace : (Application.OnServer.updateDeployment "argocd" ⟨0, 0⟩ "web"
        ⟨none, .empty, .empty, .empty⟩).Trace [⟨.checkpoint, .ok ()⟩, ⟨.connect .server, .ok ()⟩,
          ⟨.request (Application.OnServer.getRequest "argocd" "web"), .ok .null⟩,
          ⟨.connect .server, .error .cancelled⟩] (.error .cancelled) :=
      .call _ (.call _ (.call _ (.call _ (.done _))))
    exact ⟨_, trace, rfl, (unchanged_of_refusal (.argocdRest "" "" "argocd" 30) ⟨0, 0⟩
      (.updateDeployment "web" ⟨none, .empty, .empty, .empty⟩) refused).2 rfl nofun _ trace⟩

/-- The rollback of a kustomization whose caller gives up after the pin is refused, and objects have
changed. -/
theorem cancelled_rollback_changes_objects :
    ∃ failure after, (Flux.OnCluster.rollbackDeployment "flux-system" ⟨0, 0⟩ "web" 0).runFor ⟨0, 0⟩
        (fun k => decide (k < 6)) Flux.OnCluster.writable = (.error failure, after) ∧
      failure.kind = .cancelled ∧
      after.cluster.objects ≠ Flux.OnCluster.writable.cluster.objects := by
  refine ⟨.cancelled, _, rfl, rfl, fun same => ?_⟩
  have versions := congrArg (fun objects =>
    (SortedMap.get? objects (Store.key Flux.gitRepositoryKind "flux-system" "web")).bind fun object =>
      object.string?At versionPath) same
  exact absurd versions (by decide)

end DeploymentGateway
