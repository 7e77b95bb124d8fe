import DeploymentGateway.Proofs.Footprint.Release
import DeploymentGateway.Proofs.Program.Trace
import DeploymentGateway.Proofs.Refusal.Release
import DeploymentGateway.Proofs.Rules
import DeploymentGateway.Release.CommandLine
/-!
What is reported of a release that the manager has returned to a revision. The release is read right after it,
and where that fails the operation fails although the rollback is done; nothing that comes later fails.
-/

set_option autoImplicit false

namespace DeploymentGateway

namespace Release

/-- The release manager's program has ended a rollback with success. -/
def Acknowledged («namespace» name : String) (target : Int64) (reply : Except ReleaseError Unit) : Prop :=
  ∃ result : RunResult, result.exit = 0 ∧ (Command.rollback «namespace» name target).outcome result = reply

theorem acknowledged_iff {«namespace» name : String} {target : Int64} {reply : Except ReleaseError Unit} :
    Acknowledged «namespace» name target reply ↔ reply = .ok () := by
  constructor
  · rintro ⟨result, success, rfl⟩
    rw [Command.outcome, if_pos success]
    rfl
  · rintro rfl
    exact ⟨⟨0, "", ""⟩, rfl, rfl⟩

end Release

namespace Release.OnManager

open Rules

/-- Where a release is, and the number of the revision that a rollback goes to. -/
def findRevision (id : String) (revision : Int64) : Program (String × Int64) := do
  .checkpoint
  .ofOutcome (checkName "id" id)
  .ofOutcome (checkRevision revision)
  let home ← locate "rollback" id
  .connect .releases
  let history ← .expect (← .releaseHistory home id) (releaseFailure "rollback" id)
  let index ← .ofOutcome (Listing.historyIndex id revision history.length)
  return (home, match history[index]? with
    | some entry => entry.revision
    | none => 0)

variable {now : Time.Instant} {id : String} {exchanges : List AnsweredCall} {outcome : Outcome Deployment}

theorem rollbackDeployment_eq (revision : Int64) :
    rollbackDeployment now id revision =
      findRevision id revision >>= fun target => rollbackTo now target.1 id target.2 := by
  simp only [rollbackDeployment, findRevision, bind_assoc, pure_bind]
  rfl

theorem readOnly_findRevision (revision : Int64) : (findRevision id revision).ReadOnly := by
  refine Program.readOnly_bind (by simp) fun _ => Program.readOnly_bind (by simp) fun _ =>
    Program.readOnly_bind (by simp) fun _ => Program.readOnly_bind (readOnly_locate _ id) fun home => ?_
  simp [forall_reply]

/-- To renew a record always comes to the deployment. -/
theorem outcome_of_renew {home : String} {restored : ReleaseRevision}
    (trace : (renew now home id restored).Trace exchanges outcome) :
    outcome = .ok (toDeployment now restored) := by
  have never := never_renew (fun _ => True) now home id restored
  rcases Program.trace_bind_iff.mp trace with ⟨failure, -, rfl⟩ | ⟨found, _, _, -, after, rfl⟩
  · exact absurd trivial (never.not_refusal_of_trace trace)
  rcases found with failure | _ | source
  · exact (Program.trace_done_iff.mp after).2
  · exact (Program.trace_done_iff.mp after).2
  · rcases Program.trace_bind_iff.mp after with ⟨failure, -, rfl⟩ | ⟨_, _, _, -, ended, rfl⟩
    · exact absurd trivial (never.not_refusal_of_trace trace)
    · exact (Program.trace_done_iff.mp ended).2

theorem sparesReleases_renew (home : String) (restored : ReleaseRevision) :
    (renew now home id restored).SparesReleases := by
  have spares := (readOnly_recordedSource "rollback" home id).sparesReleases
  refine Program.sparesReleases_bind (Program.sparesReleases_attempt spares) fun found => ?_
  rcases found with failure | _ | source
  · simp
  · simp
  · exact Program.sparesReleases_bind (sparesReleases_remember restored source) fun _ => trivial

/-- A way through a rollback: nothing was asked for, or the manager has refused it, or the release was read after
it, and the outcome is what was read. -/
inductive RollbackWay (now : Time.Instant) (id : String) (exchanges : List AnsweredCall) :
    Outcome Deployment → Prop where
  | unasked (failure : Failure) : (∀ exchange ∈ exchanges, exchange.1.movesReleases = false) →
      RollbackWay now id exchanges (.error failure)
  | refused {front : List AnsweredCall} {home : String} {target : Int64} {error : ReleaseError} :
      (∀ exchange ∈ front, exchange.1.movesReleases = false) →
      exchanges = front ++ [⟨.rollback home id target, .error error⟩] →
      RollbackWay now id exchanges (.error (releaseFailure "rollback" id error))
  | lost {front : List AnsweredCall} {home : String} {target : Int64} {error : ReleaseError} :
      (∀ exchange ∈ front, exchange.1.movesReleases = false) →
      exchanges = front ++ [⟨.rollback home id target, .ok ()⟩, ⟨.releaseStatus home id, .error error⟩] →
      RollbackWay now id exchanges (.error (releaseFailure "rollback" id error))
  | told {front rest : List AnsweredCall} {home : String} {target : Int64} {restored : ReleaseRevision} :
      (∀ exchange ∈ front, exchange.1.movesReleases = false) →
      (∀ exchange ∈ rest, exchange.1.movesReleases = false) →
      exchanges = front ++ ⟨.rollback home id target, .ok ()⟩ ::
        ⟨.releaseStatus home id, .ok restored⟩ :: rest →
      RollbackWay now id exchanges (.ok (toDeployment now restored))

theorem rollbackWay_of_trace {revision : Int64}
    (trace : (rollbackDeployment now id revision).Trace exchanges outcome) :
    RollbackWay now id exchanges outcome := by
  rw [rollbackDeployment_eq, Program.trace_bind_iff] at trace
  rcases trace with ⟨failure, before, rfl⟩ | ⟨⟨home, target⟩, front, second, before, after, rfl⟩
  · exact .unasked failure ((readOnly_findRevision revision).sparesReleases.movesReleases_of_trace before)
  · have reads := (readOnly_findRevision revision).sparesReleases.movesReleases_of_trace before
    obtain ⟨reply, rest, rfl, replied⟩ := Program.trace_call_iff.mp after
    rcases reply with error | ⟨⟩
    · obtain ⟨rfl, rfl⟩ := Program.trace_done_iff.mp replied
      exact .refused reads rfl
    · obtain ⟨answer, last, rfl, answered⟩ := Program.trace_call_iff.mp replied
      rcases answer with error | restored
      · obtain ⟨rfl, rfl⟩ := Program.trace_done_iff.mp answered
        exact .lost reads rfl
      · rw [outcome_of_renew answered]
        exact .told reads ((sparesReleases_renew home restored).movesReleases_of_trace answered) rfl

/-- An acknowledged rollback is told as a failure exactly where the release could not be read right after it. -/
theorem error_iff_of_acknowledged {revision : Int64}
    (trace : (rollbackDeployment now id revision).Trace exchanges outcome) {home name : String}
    {target : Int64} {reply : Except ReleaseError Unit}
    (sent : ⟨.rollback home name target, reply⟩ ∈ exchanges)
    (acknowledged : Acknowledged home name target reply) :
    (∃ failure, outcome = .error failure) ↔
      ∃ error, [⟨.rollback home name target, reply⟩, ⟨.releaseStatus home name, .error error⟩]
        <:+ exchanges := by
  obtain rfl := acknowledged_iff.mp acknowledged
  have unsent : ∀ {part : List AnsweredCall}, (∀ exchange ∈ part, exchange.1.movesReleases = false) →
      ⟨.rollback home name target, .ok ()⟩ ∉ part := fun spares mem => nomatch spares _ mem
  cases rollbackWay_of_trace trace with
  | unasked failure spares => exact absurd sent (unsent spares)
  | refused spares split =>
    rw [split] at sent
    cases List.mem_singleton.mp ((List.mem_append.mp sent).resolve_left (unsent spares))
  | @lost front home' target' error spares split =>
    rw [split] at sent
    rcases List.mem_cons.mp ((List.mem_append.mp sent).resolve_left (unsent spares)) with same | later
    · cases same
      exact iff_of_true ⟨_, rfl⟩ ⟨error, split ▸ List.suffix_append _ _⟩
    · cases List.mem_singleton.mp later
  -- Renewing the record comes after the release was read, and no failure of it ends the operation.
  | @told front rest home' target' restored spares quiet split =>
    have silent : ∀ exchange ∈ (⟨.releaseStatus home' id, .ok restored⟩ : AnsweredCall) :: rest,
        exchange.1.movesReleases = false := List.forall_mem_cons.mpr ⟨rfl, quiet⟩
    rw [split] at sent
    rcases List.mem_cons.mp ((List.mem_append.mp sent).resolve_left (unsent spares)) with same | later
    · cases same
      rw [split]
      simp only [suffix_iff_of_once (unsent spares) (unsent silent)]
      exact iff_of_false (by rintro ⟨_, ⟨⟩⟩) (by rintro ⟨_, ⟨⟩⟩)
    · exact absurd later (unsent silent)

theorem acknowledged_of_ok {revision : Int64} {deployment : Deployment}
    (trace : (rollbackDeployment now id revision).Trace exchanges (.ok deployment)) :
    ∃ home target, ⟨.rollback home id target, .ok ()⟩ ∈ exchanges := by
  generalize ended : Except.ok deployment = outcome at trace
  cases rollbackWay_of_trace trace with
  | unasked failure _ => cases ended
  | refused _ _ => cases ended
  | lost _ _ => cases ended
  | @told front rest home target restored _ _ split =>
    refine ⟨home, target, ?_⟩
    rw [split]
    simp

/-! Ways through a rollback that is acknowledged. -/

/-- The exchanges of a rollback up to the failure to read the release that follows it. -/
def lostExchanges (id : String) (latest : ReleaseRevision) (history : List ReleaseRevision)
    (target : ReleaseRevision) (error : ReleaseError) : List AnsweredCall :=
  [⟨.checkpoint, .ok ()⟩, ⟨.connect .releases, .ok ()⟩, ⟨.releaseList none none, .ok [latest]⟩,
    ⟨.connect .releases, .ok ()⟩, ⟨.releaseHistory latest.namespace id, .ok history⟩,
    ⟨.rollback latest.namespace id target.revision, .ok ()⟩,
    ⟨.releaseStatus latest.namespace id, .error error⟩]

/-- Wherever a rollback finds its revision, the manager may carry it out and fail to read the release afterwards. -/
theorem trace_rollbackDeployment_lost {revision : Int64} (name : IsName id) (natural : ¬ revision < 0)
    {latest : ReleaseRevision} (named : latest.name = id) {history : List ReleaseRevision} {index : Nat}
    (within : Listing.historyIndex id revision history.length = .ok index) {target : ReleaseRevision}
    (there : history[index]? = some target) (error : ReleaseError) :
    (rollbackDeployment now id revision).Trace (lostExchanges id latest history target error)
      (.error (releaseFailure "rollback" id error)) := by
  have passed : ∀ field, checkName field id = .ok () := fun field => checkName_ok_iff.mpr name
  have checked : checkRevision revision = .ok () := if_neg natural
  have located : (locate "rollback" id).Trace
      [⟨.connect .releases, .ok ()⟩, ⟨.releaseList none none, .ok [latest]⟩]
      (.ok latest.namespace) := by
    simp [locate, passed, named, Program.trace_call_iff, Program.trace_done_iff]
  have last : (Program.ofOutcome (Listing.historyIndex id revision history.length) >>= fun index =>
      rollbackTo now latest.namespace id (match history[index]? with
        | some entry => entry.revision
        | none => 0)).Trace
      [⟨.rollback latest.namespace id target.revision, .ok ()⟩,
        ⟨.releaseStatus latest.namespace id, .error error⟩]
      (.error (releaseFailure "rollback" id error)) := by
    simp only [within, Program.ofOutcome, Program.done_ok_bind, there]
    exact .call _ (.call _ (.done _))
  simp only [rollbackDeployment, passed, checked, Program.ofOutcome, Program.done_ok_bind]
  refine .call _ ?_
  change (locate "rollback" id >>= _).Trace _ _
  refine Program.trace_bind_iff.mpr (.inr ⟨_, _, _, located, ?_, rfl⟩)
  exact .call _ (.call _ last)

end Release.OnManager

end DeploymentGateway
