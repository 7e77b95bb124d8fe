import DeploymentGateway.Adapter
import DeploymentGateway.Proofs.History.Application
import DeploymentGateway.Proofs.History.Flux
import DeploymentGateway.Proofs.History.Release
/-!
Histories and rollbacks agree on every back end that rolls back: what a history shows at a position is
what a rollback to that position asks for.
-/

set_option autoImplicit false

namespace DeploymentGateway

open Release

/-- The first change of a rollback is the one to the revision that a history shows at a position. -/
def Settings.Targets (settings : Settings) (id : String) (view : View) (index : Nat)
    (entry : Revision) (c : Call) : Prop :=
  match settings with
  | argocd home => Application.OnCluster.Targets home id view entry c
  | argocdRest _ _ home _ => Application.OnServer.Targets home id view index entry c
  | crossplane _ => False
  | flux home => Flux.OnCluster.Targets home id view entry c
  | helm _ _ => Release.OnManager.Targets id view index entry c

/-- Whatever the back end is and whatever it answers, a rollback starts as the history of its deployment
has it; and the release manager in memory then has a last revision that repeats the one at the position,
if all are numbered apart and that one names the release it is kept under. -/
theorem rollback_agrees_with_history (settings : Settings) (rollsBack : settings.kind ≠ .crossplane)
    (now : Time.Instant) (view : View) (id : String) {history : History}
    (shown : ((settings.operations now).deploymentHistory id).begin view = .ended (.ok history)) :
    (∀ revision, RollsBack id revision history.revisions (settings.Targets id view)
      (((settings.operations now).rollbackDeployment id revision).begin view)) ∧
    (settings.kind = .helm → ∀ memory : Memory, view = memory.view now →
      ∃ home stored, (Release.OnManager.locate "rollback" id).begin view = .ended (.ok home) ∧
        memory.releases.history? home id = some stored ∧ history = toHistory now id stored ∧
        ∀ revision item, 0 ≤ revision → stored[revision.toInt.toNat]? = some item →
          (stored.map fun entry => entry.revision).Nodup → item.namespace = home → item.name = id →
          ((settings.operations now).rollbackDeployment id revision).Ends now memory
            (fun _ after => ∃ latest, after.releases.latest? home id = some latest ∧
              latest.Repeats item)
            (fun _ => False)) := by
  constructor
  · intro revision
    cases settings with
    | argocd home => exact Application.OnCluster.rollsBack shown
    | argocdRest baseUrl tokenVariable home timeoutSeconds =>
      exact Application.OnServer.rollsBack shown
    | crossplane composite => exact absurd rfl rollsBack
    | flux home => exact Flux.OnCluster.rollsBack shown
    | helm binary context => exact Release.OnManager.rollsBack shown
  · rintro helm memory rfl
    cases settings with
    | helm binary context => exact Release.OnManager.rollbackDeployment_repeats shown
    | argocd _ | argocdRest _ _ _ _ | crossplane _ | flux _ => cases helm

/-- A revision of the release "web". -/
def webRevision (home : String) (revision : Int64) (chart version : String)
    (status : ReleaseStatus) : ReleaseRevision :=
  ⟨"web", home, revision, chart, version, "", status, none, none, "", .empty⟩

/-- A release that was upgraded from one chart to another. -/
def upgradedRelease : List ReleaseRevision :=
  [webRevision "prod" 1 "nginx" "1.0.0" .superseded, webRevision "prod" 2 "caddy" "3.0.0" .deployed]

/-- A history with a revision that names another namespace than the one it is kept under. -/
def mixedRelease : List ReleaseRevision :=
  [webRevision "prod" 1 "nginx" "1.0.0" .superseded,
    webRevision "staging" 2 "apache" "2.0.0" .superseded,
    webRevision "prod" 3 "caddy" "3.0.0" .deployed]

/-- Back ends with one release and no objects. -/
def holding (history : List ReleaseRevision) : Memory :=
  ⟨.empty, Store.empty.seed history⟩

/-- An upgraded release goes back to its first chart, and no further than it has revisions. -/
theorem rollback_agrees_with_history_upgradedRelease :
    (Release.OnManager.rollbackDeployment ⟨0, 0⟩ "web" 2).begin
        ((holding upgradedRelease).view ⟨0, 0⟩) = .ended (.error (.revisionNotFound "web" 2 2)) ∧
      (Release.OnManager.rollbackDeployment ⟨0, 0⟩ "web" 0).Ends ⟨0, 0⟩ (holding upgradedRelease)
        (fun _ after => ∃ latest, after.releases.latest? "prod" "web" = some latest ∧
          latest.chart = "nginx")
        (fun _ => False) := by
  have shown : (Release.OnManager.deploymentHistory ⟨0, 0⟩ "web").begin
      ((holding upgradedRelease).view ⟨0, 0⟩) =
        .ended (.ok (toHistory ⟨0, 0⟩ "web" upgradedRelease)) := rfl
  have agrees := rollback_agrees_with_history (.helm "helm" none) nofun ⟨0, 0⟩ _ "web" shown
  refine ⟨(agrees.1 2).outside (by decide), ?_⟩
  obtain ⟨home, stored, located, kept, -, repeats⟩ := agrees.2 rfl (holding upgradedRelease) rfl
  cases located
  obtain rfl : upgradedRelease = stored := Option.some.inj kept
  exact (repeats 0 _ (by decide) rfl (by decide) rfl rfl).mono
    (fun _ _ found => found.imp fun latest => And.imp_right fun same => same.chart) fun _ => id

/-- A rollback to the revision that names another namespace leaves the release as it runs. -/
theorem rollback_misses_foreign_revision :
    ∃ deployment after latest,
      (Release.OnManager.deploymentHistory ⟨0, 0⟩ "web").begin
        ((holding mixedRelease).view ⟨0, 0⟩) =
          .ended (.ok (toHistory ⟨0, 0⟩ "web" mixedRelease)) ∧
      (mixedRelease.map fun entry => entry.revision).Nodup ∧
      (Release.OnManager.rollbackDeployment ⟨0, 0⟩ "web" 1).runInMemory ⟨0, 0⟩
        (holding mixedRelease) = (.ok deployment, after) ∧
      after.releases.latest? "prod" "web" = some latest ∧
      latest.chart = "caddy" ∧ (mixedRelease[1]?.map fun entry => entry.chart) = some "apache" :=
  ⟨_, _, _, rfl, by decide, rfl, rfl, rfl, rfl⟩

end DeploymentGateway
