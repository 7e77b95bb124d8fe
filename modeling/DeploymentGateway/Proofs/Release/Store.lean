import DeploymentGateway.Release.Store
import Mathlib.Data.List.Nodup
/-!
What the release manager in memory does to the history of one release, and that it leaves every other
one alone. Revisions are only ever added at the end, and the ones before are marked as superseded; so
the last revision that was asked for with a chart, rather than repeated by a rollback, can be read
from a history.
-/

set_option autoImplicit false

namespace DeploymentGateway.Release

/-- The revision comes from an installation or an upgrade, and not from a rollback. -/
def ReleaseRevision.isRequested (revision : ReleaseRevision) : Bool :=
  revision.description == "revision 1" || revision.description == "Upgrade complete"

/-- The last revision of a history that comes from an installation or an upgrade. -/
def lastRequested? (history : List ReleaseRevision) : Option ReleaseRevision :=
  (history.filter ReleaseRevision.isRequested).getLast?

namespace Store

@[simp]
theorem supersede_name (revision : ReleaseRevision) : (supersede revision).name = revision.name := by
  unfold supersede
  split <;> rfl

@[simp]
theorem supersede_namespace (revision : ReleaseRevision) :
    (supersede revision).namespace = revision.namespace := by
  unfold supersede
  split <;> rfl

@[simp]
theorem supersede_chart (revision : ReleaseRevision) :
    (supersede revision).chart = revision.chart := by
  unfold supersede
  split <;> rfl

@[simp]
theorem isRequested_supersede (revision : ReleaseRevision) :
    (supersede revision).isRequested = revision.isRequested := by
  unfold supersede
  split <;> rfl

/-- A rollback tells itself from what was asked for. -/
theorem isRequested_rollback {revision : ReleaseRevision} {number : String}
    (described : revision.description = "Rollback to " ++ number) :
    revision.isRequested = false := by
  have first : (("Rollback to " ++ number).toList).head? = some 'R' := by
    simp [String.toList_append]
  simp only [ReleaseRevision.isRequested, described, Bool.or_eq_false_iff, beq_eq_false_iff_ne]
  constructor
  · intro same
    rw [same] at first
    simp at first
  · intro same
    rw [same] at first
    simp at first

theorem lastRequested?_map_supersede (history : List ReleaseRevision) :
    lastRequested? (history.map supersede) = (lastRequested? history).map supersede := by
  have same : ReleaseRevision.isRequested ∘ supersede = ReleaseRevision.isRequested :=
    funext isRequested_supersede
  rw [lastRequested?, List.filter_map, same, List.getLast?_map, lastRequested?]

/-- An installation or an upgrade is the last one of its history. -/
theorem lastRequested?_append_requested (history : List ReleaseRevision)
    {next : ReleaseRevision} (requested : next.isRequested = true) :
    lastRequested? (history ++ [next]) = some next := by
  simp [lastRequested?, List.filter_append, requested]

/-- A rollback leaves the last installation or upgrade what it was. -/
theorem lastRequested?_append_repeated (history : List ReleaseRevision)
    {next : ReleaseRevision} (repeated : next.isRequested = false) :
    lastRequested? (history ++ [next]) = lastRequested? history := by
  simp [lastRequested?, List.filter_append, repeated]

variable (store : Store)

theorem history?_push_self (next : ReleaseRevision) :
    (store.push next).2.history? next.namespace next.name =
      some ((((store.history? next.namespace next.name).getD []).map supersede) ++
        [(store.push next).1]) :=
  SortedMap.get?_insert_self _ _ _

theorem history?_push_of_ne {next : ReleaseRevision} {home name : String}
    (ne : ¬ (home = next.namespace ∧ name = next.name)) :
    (store.push next).2.history? home name = store.history? home name := by
  apply SortedMap.get?_insert_of_ne
  intro same
  cases same
  exact ne ⟨rfl, rfl⟩

/-- The first revision of a new release. -/
def installed (now : Time.Instant) (request : InstallRequest) : ReleaseRevision where
  name := request.name
  «namespace» := request.namespace
  revision := 1
  chart := chartName request.chart
  chartVersion := request.version.getD defaultChartVersion
  appVersion := ""
  status := .deployed
  firstDeployed := some now
  lastDeployed := some now
  description := "revision 1"
  config := request.values

/-- The revision that follows another one in an upgrade. -/
def upgraded (now : Time.Instant) (current : ReleaseRevision) (request : UpgradeRequest) :
    ReleaseRevision :=
  { current with
    chart := chartName request.chart
    chartVersion := request.version.getD current.chartVersion
    config := (if request.reuseValues then current.config else .empty).union request.values
    status := .deployed
    lastDeployed := some now
    description := "Upgrade complete" }

/-- The revision that repeats another one. -/
def repeated (target : ReleaseRevision) (revision : Int64) : ReleaseRevision :=
  { target with
    status := .deployed, description := "Rollback to " ++ Text.signedDecimal revision.toInt }

theorem latest?_of_history? {home name : String} {earlier : List ReleaseRevision}
    {last : ReleaseRevision} (found : store.history? home name = some (earlier ++ [last])) :
    store.latest? home name = some last := by
  rw [latest?, found, Option.bind_some, List.getLast?_concat]

theorem install_of_none (now : Time.Instant) {request : InstallRequest}
    (free : store.history? request.namespace request.name = none) :
    store.install now request =
      (.ok (store.push (installed now request)).1, (store.push (installed now request)).2) := by
  simp [install, latest?, free, installed]

theorem install_of_some (now : Time.Instant) {request : InstallRequest}
    {history : List ReleaseRevision} (nonempty : history ≠ [])
    (found : store.history? request.namespace request.name = some history) :
    store.install now request =
      (.error (.commandFailed "install"
        ("cannot re-use a name that is still in use: " ++ request.name)), store) := by
  have latest : store.latest? request.namespace request.name = some (history.getLast nonempty) := by
    rw [latest?, found, Option.bind_some, List.getLast?_eq_some_getLast]
  rw [install, latest]

theorem uninstall_of_some {home name : String} {history : List ReleaseRevision}
    (found : store.history? home name = some history) :
    store.uninstall home name = (.ok (), ⟨store.releases.erase ⟨home, name⟩⟩) := by
  have contained : store.releases.contains ⟨home, name⟩ = true := by
    rw [SortedMap.contains, ← history?, found]
    rfl
  rw [uninstall, if_pos contained]

theorem uninstall_of_none {home name : String} (absent : store.history? home name = none) :
    store.uninstall home name = (.error (.notFound name), store) := by
  have missing : store.releases.contains ⟨home, name⟩ = false := by
    rw [SortedMap.contains, ← history?, absent]
    rfl
  rw [uninstall, if_neg (by rw [missing]; exact Bool.false_ne_true)]

theorem upgrade_of_latest (now : Time.Instant) {request : UpgradeRequest}
    {current : ReleaseRevision}
    (latest : store.latest? request.namespace request.name = some current) :
    store.upgrade now request =
      (.ok (store.push (upgraded now current request)).1,
        (store.push (upgraded now current request)).2) := by
  simp [upgrade, latest, upgraded]

/-- An installation fails and changes nothing, or succeeds. -/
theorem install_cases (now : Time.Instant) (request : InstallRequest) :
    (∃ error, store.install now request = (.error error, store)) ∨
      ∃ revision after, store.install now request = (.ok revision, after) := by
  rcases latest : store.latest? request.namespace request.name with _ | current
  · right
    simp [install, latest]
  · left
    simp [install, latest]

/-- An upgrade fails and changes nothing, or succeeds. -/
theorem upgrade_cases (now : Time.Instant) (request : UpgradeRequest) :
    (∃ error, store.upgrade now request = (.error error, store)) ∨
      ∃ revision after, store.upgrade now request = (.ok revision, after) := by
  rcases latest : store.latest? request.namespace request.name with _ | current
  · left
    simp [upgrade, latest]
  · right
    simp [upgrade, latest]

/-- A removal fails and changes nothing, or succeeds. -/
theorem uninstall_cases (home name : String) :
    (∃ error, store.uninstall home name = (.error error, store)) ∨
      ∃ after, store.uninstall home name = (.ok (), after) := by
  by_cases contained : store.releases.contains ⟨home, name⟩ = true
  · right
    simp [uninstall, contained]
  · left
    simp [uninstall, contained]

/-- A rollback repeats the first revision of a number. -/
theorem rollback_of_find? {home name : String} {revision : Int64} {target : ReleaseRevision}
    (first : ((store.history? home name).getD []).find? (fun entry => entry.revision == revision) =
      some target) :
    store.rollback home name revision = (.ok (), (store.push (repeated target revision)).2) := by
  simp [rollback, first, repeated]

/-- A rollback repeats a revision of the history, or does nothing. -/
theorem rollback_cases (home name : String) (revision : Int64) :
    (∃ error, store.rollback home name revision = (.error error, store)) ∨
      ∃ target ∈ (store.history? home name).getD [],
        store.rollback home name revision = (.ok (), (store.push (repeated target revision)).2) := by
  rcases found : ((store.history? home name).getD []).find? fun entry => entry.revision == revision
    with _ | target
  · left
    simp [rollback, found]
  · right
    exact ⟨target, List.mem_of_find?_eq_some found, store.rollback_of_find? found⟩

/-- A rollback to a number that only one revision has repeats that revision. -/
theorem rollback_of_mem {home name : String} {history : List ReleaseRevision}
    {target : ReleaseRevision} (found : store.history? home name = some history)
    (distinct : (history.map fun entry => entry.revision).Nodup) (mem : target ∈ history) :
    store.rollback home name target.revision =
      (.ok (), (store.push (repeated target target.revision)).2) := by
  have finds : history.find? (fun entry => entry.revision == target.revision) = some target := by
    rcases first : history.find? fun entry => entry.revision == target.revision with _ | entry
    · have none := List.find?_eq_none.mp first target mem
      simp at none
    · have same : entry.revision = target.revision := by simpa using List.find?_some first
      rw [first, List.inj_on_of_nodup_map distinct (List.mem_of_find?_eq_some first) mem same]
  exact store.rollback_of_find? (by rw [found, Option.getD_some, finds])

/-- A release that was returned to a revision has a last revision. -/
theorem status_of_rollback {home name : String} {revision : Int64} {after : Store}
    (run : store.rollback home name revision = (.ok (), after)) :
    ∃ latest, after.status home name = .ok latest := by
  rcases store.rollback_cases home name revision with ⟨error, refused⟩ | ⟨target, mem, repeats⟩
  · rw [refused] at run
    cases run
  rw [repeats] at run
  cases run
  by_cases own : home = (repeated target revision).namespace ∧ name = (repeated target revision).name
  · obtain ⟨rfl, rfl⟩ := own
    have latest := latest?_of_history? _ (store.history?_push_self (repeated target revision))
    exact ⟨_, by rw [status, latest]⟩
  · have history := store.history?_push_of_ne own
    rcases found : store.history? home name with _ | revisions
    · simp [found] at mem
    have nonempty : revisions ≠ [] := by
      rintro rfl
      simp [found] at mem
    exact ⟨revisions.getLast nonempty, by
      rw [status, latest?, history, found, Option.bind_some, List.getLast?_eq_some_getLast nonempty]⟩

end Store

end DeploymentGateway.Release
