import DeploymentGateway.Proofs.History.Position
import DeploymentGateway.Proofs.Release.Rollback
/-!
Histories and rollbacks of releases. The manager numbers revisions in its own way, so a rollback asks it
for the number that the revision at a position has there; and the manager in memory then repeats that
revision as long as it has the number alone.
-/

set_option autoImplicit false

namespace DeploymentGateway.Release

open Cluster

/-- A revision has what another one consists of: its chart, the versions and the values. -/
structure ReleaseRevision.Repeats (revision other : ReleaseRevision) : Prop where
  chart : revision.chart = other.chart
  chartVersion : revision.chartVersion = other.chartVersion
  appVersion : revision.appVersion = other.appVersion
  config : revision.config = other.config

namespace OnManager

variable {id : String} {now : Time.Instant} {view : View} {history : History}

@[simp]
theorem not_isRevisionNotFound_releaseFailure (operation id : String) (error : ReleaseError) :
    ¬ (releaseFailure operation id error).IsRevisionNotFound := by
  rintro ⟨_, _, _, same⟩
  cases error <;> cases same

/-- Of a release whose history is shown. -/
private theorem shown_release
    (shown : (deploymentHistory now id).begin view = .ended (.ok history)) :
    view .checkpoint = .ok () ∧ Rules.checkName "id" id = .ok () ∧
      view (.connect .releases) = .ok () ∧
      ∃ home stored, (∀ operation, (locate operation id).begin view = .ended (.ok home)) ∧
        view (.releaseHistory home id) = .ok stored ∧ history = toHistory now id stored := by
  rcases waits : view .checkpoint with failure | ⟨⟩
  · simp [deploymentHistory, waits] at shown
  rcases named : Rules.checkName "id" id with failure | ⟨⟩
  · simp [deploymentHistory, locate, waits, named] at shown
  rcases connected : view (.connect .releases) with failure | ⟨⟩
  · simp [deploymentHistory, locate, waits, named, connected] at shown
  rcases listed : view (.releaseList none none) with error | releases
  · simp [deploymentHistory, locate, waits, named, connected, listed] at shown
  rcases homes : (releases.filter fun r => r.name == id).map fun r => r.namespace with
    _ | ⟨home, _ | ⟨other, others⟩⟩
  · simp [deploymentHistory, locate, waits, named, connected, listed, homes] at shown
  · rcases stored : view (.releaseHistory home id) with error | revisions
    · simp [deploymentHistory, locate, waits, named, connected, listed, homes, stored] at shown
    · simp [deploymentHistory, locate, waits, named, connected, listed, homes, stored] at shown
      refine ⟨rfl, rfl, rfl, home, revisions, fun operation => ?_, stored, shown.symm⟩
      simp [locate, named, connected, listed, homes]
  · simp [deploymentHistory, locate, waits, named, connected, listed, homes] at shown

private theorem avoids_rollbackTo (home : String) (target : Int64) :
    (rollbackTo now home id target).Avoids Failure.IsRevisionNotFound := by
  simp [rollbackTo, forall_reply, (never_renew _ _ _ _ _).avoids]

private theorem begin_rollbackDeployment (now : Time.Instant) {home : String}
    {stored : List ReleaseRevision}
    (waits : view .checkpoint = .ok ()) (named : Rules.checkName "id" id = .ok ())
    (connected : view (.connect .releases) = .ok ())
    (located : ∀ operation, (locate operation id).begin view = .ended (.ok home))
    (found : view (.releaseHistory home id) = .ok stored) {revision : Int64}
    (checked : Rules.checkRevision revision = .ok ()) :
    (rollbackDeployment now id revision).begin view =
      match Listing.historyIndex id revision stored.length with
      | .ok index => (rollbackTo now home id (match stored[index]? with
          | some item => item.revision
          | none => 0)).begin view
      | .error failure => .ended (.error failure) := by
  rcases within : Listing.historyIndex id revision stored.length with failure | index
  · simp [rollbackDeployment, waits, named, checked, Program.begin_bind, located, connected, found,
      within]
  · simp [rollbackDeployment, waits, named, checked, Program.begin_bind, located, connected, found,
      within]
    rfl

/-- The first change of a rollback asks for the number of the revision at a position. -/
def Targets (id : String) (view : View) (index : Nat) (entry : Revision) (c : Call) : Prop :=
  ∃ home stored item, (locate "rollback" id).begin view = .ended (.ok home) ∧
    view (.releaseHistory home id) = .ok stored ∧ stored[index]? = some item ∧
    entry.version = item.chartVersion ∧ c = .rollback home id item.revision

/-- A rollback starts as the history of its release has it. -/
theorem rollsBack {revision : Int64}
    (shown : (deploymentHistory now id).begin view = .ended (.ok history)) :
    RollsBack id revision history.revisions (Targets id view)
      ((rollbackDeployment now id revision).begin view) := by
  obtain ⟨waits, named, connected, home, stored, located, found, rfl⟩ := shown_release shown
  have length : (toHistory now id stored).revisions.length = stored.length := by simp [toHistory]
  have goes (checked : Rules.checkRevision revision = .ok ()) :=
    begin_rollbackDeployment now waits named connected located found checked
  rw [← length] at goes
  refine .of_historyIndex _ (numbered_of_zipIdx _ _ fun _ _ => rfl) ?_ goes ?_
  · intro failure checked
    simp [rollbackDeployment, waits, named, checked]
  intro index entry shown
  obtain ⟨item, there, rfl⟩ := item_of_zipIdx shown
  rw [there]
  exact ⟨avoids_rollbackTo home item.revision,
    home, stored, item, located "rollback", found, there, rfl, rfl⟩

/-- Asked for a revision that has its number alone, the manager in memory repeats it. -/
private theorem rollbackTo_ends {memory : Memory} {stored : List ReleaseRevision}
    {item : ReleaseRevision}
    (found : memory.releases.history? item.namespace item.name = some stored) (mem : item ∈ stored)
    (distinct : (stored.map fun entry => entry.revision).Nodup) :
    (rollbackTo now item.namespace item.name item.revision).Ends now memory
      (fun _ after => ∃ latest, after.releases.latest? item.namespace item.name = some latest ∧
        latest.Repeats item)
      (fun _ => False) := by
  have repeats := memory.releases.rollback_of_mem found distinct mem
  have latest : (memory.releases.push (Store.repeated item item.revision)).2.latest?
      item.namespace item.name = some (memory.releases.push (Store.repeated item item.revision)).1 :=
    Store.latest?_of_history? _
      (memory.releases.history?_push_self (Store.repeated item item.revision))
  simp [rollbackTo, repeats, Store.status, latest]
  have repeated : (memory.releases.push (Store.repeated item item.revision)).1.Repeats item :=
    ⟨rfl, rfl, rfl, rfl⟩
  exact (renew_ends now _ _ _ _).mono (fun _ after kept => ⟨_, kept ▸ latest, repeated⟩) fun _ => id

/-- What the manager in memory has after a rollback to a revision whose history is shown: its last
revision repeats the one that is meant, if that is numbered apart from all others and names the release
it is kept under. -/
theorem rollbackDeployment_repeats {memory : Memory}
    (shown : (deploymentHistory now id).begin (memory.view now) = .ended (.ok history)) :
    ∃ home stored, (locate "rollback" id).begin (memory.view now) = .ended (.ok home) ∧
      memory.releases.history? home id = some stored ∧ history = toHistory now id stored ∧
      ∀ revision item, 0 ≤ revision → stored[revision.toInt.toNat]? = some item →
        (stored.map fun entry => entry.revision).Nodup → item.namespace = home → item.name = id →
        (rollbackDeployment now id revision).Ends now memory
          (fun _ after => ∃ latest, after.releases.latest? home id = some latest ∧
            latest.Repeats item)
          (fun _ => False) := by
  obtain ⟨waits, named, connected, home, stored, located, found, rfl⟩ := shown_release shown
  have kept : memory.releases.history? home id = some stored := by
    rcases held : memory.releases.history? home id with _ | history
    · simp [Memory.view, Memory.answer, Store.history, held] at found
    · simpa [Memory.view, Memory.answer, Store.history, held] using found
  refine ⟨home, stored, located "rollback", kept, rfl, ?_⟩
  rintro revision item positive there distinct rfl rfl
  have nonneg : 0 ≤ revision.toInt := by simpa using Int64.le_iff_toInt_le.mp positive
  have goes := begin_rollbackDeployment now waits named connected located found
    (checkRevision_of_nonneg nonneg)
  rw [historyIndex_of_lt nonneg (List.getElem?_eq_some_iff.mp there).1] at goes
  simp only [there] at goes
  rw [Program.Ends, Program.runInMemory_congr goes]
  exact rollbackTo_ends kept (List.mem_of_getElem? there) distinct

end OnManager

end DeploymentGateway.Release
