import DeploymentGateway.Proofs.Program.Change
import DeploymentGateway.Proofs.Release.Record
import DeploymentGateway.Proofs.Release.Store
/-!
How the rollback of a release goes on when it has found the number of the revision that it goes to. Once the
manager has made it there is a last revision to tell of, and to renew the record of its chart never fails.
-/

set_option autoImplicit false

namespace DeploymentGateway.Release.OnManager

/-- Renew the record of a release that was returned to a revision, and tell of it. -/
def renew (now : Time.Instant) (home id : String) (restored : ReleaseRevision) :
    Program Deployment := do
  match ← (recordedSource "rollback" home id).attempt with
  | .ok (some source) => remember restored source
  | _ => pure ()
  return toDeployment now restored

/-- Return a release to the revision with a number. -/
def rollbackTo (now : Time.Instant) (home id : String) (target : Int64) : Program Deployment := do
  Program.expect (← .rollback home id target) (releaseFailure "rollback" id)
  let restored ← Program.expect (← .releaseStatus home id) (releaseFailure "rollback" id)
  renew now home id restored

variable (refusal : Failure → Prop) (now : Time.Instant) (home id : String)

theorem never_remember (revision : ReleaseRevision) (source : ChartSource) :
    (remember revision source).Never refusal :=
  Program.never_bind (by simp) fun _ => trivial

theorem never_renew (restored : ReleaseRevision) : (renew now home id restored).Never refusal := by
  refine Program.never_bind (by simp) fun found => ?_
  rcases found with failure | _ | source
  · simp
  · simp
  · exact Program.never_bind (never_remember refusal restored source) fun _ => trivial

/-- To renew a record leaves the releases as they are. -/
theorem renew_ends (restored : ReleaseRevision) (memory : Memory) :
    (renew now home id restored).Ends now memory (fun _ after => after.releases = memory.releases)
      (fun _ => False) := by
  refine (recordedSource_ends "rollback" home id).attempt.bind ?_ fun _ => False.elim
  rintro _ after ⟨found, rfl, -, rfl⟩
  rcases found with _ | source
  · rfl
  · exact remember_keeps_releases.bind (fun _ _ kept => kept) fun _ => False.elim

/-- A rollback that fails has left everything as it was. -/
theorem rollbackTo_keepsOnFailure (memory : Memory) (target : Int64) :
    (rollbackTo now home id target).KeepsOnFailure now memory := by
  intro waits failure after failed
  rcases memory.releases.rollback_cases home id target with ⟨error, refused⟩ | ⟨again, -, repeats⟩
  · simp [rollbackTo, Memory.answerTo, refused] at failed
    exact failed.2.symm
  · obtain ⟨latest, restored⟩ := memory.releases.status_of_rollback repeats
    simp [rollbackTo, Memory.answerTo, repeats, restored] at failed
    exact absurd trivial ((never_renew (fun _ => True) now home id latest).not_refusal failed)

end DeploymentGateway.Release.OnManager
