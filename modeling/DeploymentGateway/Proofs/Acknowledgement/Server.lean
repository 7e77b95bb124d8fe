import DeploymentGateway.Application.OnServer
import DeploymentGateway.Proofs.Program.Trace
import DeploymentGateway.Proofs.Rules
import DeploymentGateway.Server.Answer
/-!
What is reported of an application whose server has accepted a change. A rollback is followed by a request for
what was restored, and without an answer to it the operation fails although the rollback is done; an update is
followed by a request for a synchronization, and the operation succeeds whatever the answer to it is.
-/

set_option autoImplicit false

namespace DeploymentGateway

namespace Server

/-- The server has answered with success, whatever it has written. -/
def Accepted (reply : Except ServerError Json) : Prop :=
  ∃ answer : Answer, isSuccess answer.code = true ∧ answer.outcome = reply

theorem Accepted.cases {reply : Except ServerError Json} (accepted : Accepted reply) :
    (∃ body, reply = .ok body) ∨ ∃ reason, reply = .error (.undecodable reason) := by
  obtain ⟨answer, success, rfl⟩ := accepted
  simp only [Answer.outcome, success, Bool.not_true, Bool.false_eq_true, if_false]
  split
  · exact .inl ⟨_, rfl⟩
  · split
    · exact .inl ⟨_, rfl⟩
    · exact .inr ⟨_, rfl⟩

end Server

namespace Application.OnServer

open Server Rules

variable (home : String) (now : Time.Instant) (id : String)

/-- The entry of the history that a rollback goes to. -/
def findEntry (revision : Int64) : Program Int := do
  .checkpoint
  .ofOutcome (checkName "id" id)
  .ofOutcome (checkRevision revision)
  let app ← application home "rollback" id
  let entry ← .ofOutcome (entryId app id revision)
  .connect .server
  return entry

/-- Go to an entry, and tell of what was restored. -/
def returnTo (entry : Int) : Program Deployment := do
  let _ ← .expect (← .request (rollbackRequest home id entry)) (applicationFailure "rollback" id)
  let restored ← .expect (← .request (getRequest home id)) (applicationFailure "rollback" id)
  return toDeployment now restored

theorem rollbackDeployment_eq (revision : Int64) :
    rollbackDeployment home now id revision =
      findEntry home id revision >>= returnTo home now id := by
  simp only [rollbackDeployment, findEntry, returnTo, bind_assoc, pure_bind]

theorem readOnly_findEntry (revision : Int64) : (findEntry home id revision).ReadOnly := by
  simp [findEntry, application, getRequest, forall_reply]

/-- A way through a rollback: nothing was asked for, or the server has refused it, or what was restored could not
be read, or it is told. -/
inductive RollbackWay (exchanges : List AnsweredCall) : Outcome Deployment → Prop where
  | unasked (failure : Failure) : (∀ exchange ∈ exchanges, exchange.1.mutates = false) →
      RollbackWay exchanges (.error failure)
  | refused {front : List AnsweredCall} {entry : Int} {error : ServerError} :
      (∀ exchange ∈ front, exchange.1.mutates = false) →
      exchanges = front ++ [⟨.request (rollbackRequest home id entry), .error error⟩] →
      RollbackWay exchanges (.error (applicationFailure "rollback" id error))
  | read {front : List AnsweredCall} {entry : Int} {body : Json} (answer : Except ServerError Json) :
      (∀ exchange ∈ front, exchange.1.mutates = false) →
      exchanges = front ++ [⟨.request (rollbackRequest home id entry), .ok body⟩,
        ⟨.request (getRequest home id), answer⟩] →
      RollbackWay exchanges ((answer.map (toDeployment now)).mapError (applicationFailure "rollback" id))

variable {home now id}

theorem rollbackWay_of_trace {revision : Int64} {exchanges : List AnsweredCall}
    {outcome : Outcome Deployment}
    (trace : (rollbackDeployment home now id revision).Trace exchanges outcome) :
    RollbackWay home now id exchanges outcome := by
  rw [rollbackDeployment_eq, Program.trace_bind_iff] at trace
  rcases trace with ⟨failure, before, rfl⟩ | ⟨entry, front, second, before, after, rfl⟩
  · exact .unasked failure ((readOnly_findEntry home id revision).mutates_of_trace before)
  · have reads := (readOnly_findEntry home id revision).mutates_of_trace before
    obtain ⟨reply, rest, rfl, replied⟩ := Program.trace_call_iff.mp after
    rcases reply with error | body
    · obtain ⟨rfl, rfl⟩ := Program.trace_done_iff.mp replied
      exact .refused reads rfl
    · obtain ⟨answer, last, rfl, answered⟩ := Program.trace_call_iff.mp replied
      rcases answer with error | app
      · obtain ⟨rfl, rfl⟩ := Program.trace_done_iff.mp answered
        exact .read (.error error) reads rfl
      · obtain ⟨rfl, rfl⟩ := Program.trace_done_iff.mp answered
        exact .read (.ok app) reads rfl

private theorem reply_eq {entry entry' : Int} {reply reply' : Except ServerError Json}
    (same : (⟨.request (rollbackRequest home id entry), reply⟩ : AnsweredCall) =
      ⟨.request (rollbackRequest home id entry'), reply'⟩) : reply = reply' := by
  rw [Sigma.mk.injEq] at same
  exact eq_of_heq same.2

/-- An accepted rollback is told as a failure exactly where the answer that accepts it cannot be read, or what was
restored could not be read afterwards. -/
theorem error_iff_of_accepted {revision : Int64} {exchanges : List AnsweredCall}
    {outcome : Outcome Deployment}
    (trace : (rollbackDeployment home now id revision).Trace exchanges outcome) {entry : Int}
    {reply : Except ServerError Json}
    (sent : ⟨.request (rollbackRequest home id entry), reply⟩ ∈ exchanges) (accepted : Accepted reply) :
    (∃ failure, outcome = .error failure) ↔
      (∃ reason, reply = .error (.undecodable reason)) ∨
        ∃ error, [⟨.request (rollbackRequest home id entry), reply⟩,
          ⟨.request (getRequest home id), .error error⟩] <:+ exchanges := by
  have mutates : Call.mutates (.request (rollbackRequest home id entry)) = true := rfl
  -- The one change on the way is the request itself, which tells where in the exchanges it stands.
  have unsent : ∀ {front : List AnsweredCall}, (∀ exchange ∈ front, exchange.1.mutates = false) →
      ⟨.request (rollbackRequest home id entry), reply⟩ ∉ front := by
    intro front reads mem
    exact Bool.false_ne_true ((reads _ mem).symm.trans mutates)
  cases rollbackWay_of_trace trace with
  | unasked failure reads => exact absurd sent (unsent reads)
  | refused reads split =>
    rw [split] at sent
    have last := List.mem_singleton.mp ((List.mem_append.mp sent).resolve_left (unsent reads))
    rw [reply_eq last] at accepted ⊢
    rcases accepted.cases with ⟨body, ⟨⟩⟩ | undecodable
    exact iff_of_true ⟨_, rfl⟩ (.inl undecodable)
  | @read front entry' body answer reads split =>
    rw [split] at sent
    have other : ∀ answer', ⟨.request (rollbackRequest home id entry), reply⟩ ∉
        [(⟨.request (getRequest home id), answer'⟩ : AnsweredCall)] := by
      intro answer'
      exact unsent (List.forall_mem_singleton.mpr rfl)
    have last := (List.mem_append.mp sent).resolve_left (unsent reads)
    have posted := (List.mem_cons.mp last).resolve_right (other answer)
    rw [split, ← posted]
    simp only [suffix_iff_of_once (unsent reads) (other answer)]
    rw [reply_eq posted]
    rcases answer with error | app
    · exact iff_of_true ⟨_, rfl⟩ (.inr ⟨error, rfl⟩)
    · exact iff_of_false (by rintro ⟨_, ⟨⟩⟩) (by rintro (⟨_, ⟨⟩⟩ | ⟨_, ⟨⟩⟩))

theorem accepted_of_ok {revision : Int64} {exchanges : List AnsweredCall} {deployment : Deployment}
    (trace : (rollbackDeployment home now id revision).Trace exchanges (.ok deployment)) :
    ∃ entry body, ⟨.request (rollbackRequest home id entry), .ok body⟩ ∈ exchanges := by
  generalize ended : Except.ok deployment = outcome at trace
  cases rollbackWay_of_trace trace with
  | unasked failure reads => cases ended
  | refused reads split => cases ended
  | @read front entry body answer reads split =>
    refine ⟨entry, body, ?_⟩
    rw [split]
    simp

theorem readOnly_application (operation : String) : (application home operation id).ReadOnly := by
  simp [application, getRequest]

/-- An update after the answer to the request for a synchronization, with the failure of that in an extension. -/
def afterSync (deployment : Deployment) : Except ServerError Json → Deployment
  | .ok _ => deployment
  | .error error => { deployment with
      extensions := deployment.extensions.insert "syncError" (.string (error.message?.getD "")) }

/-- After an update that the server has answered with what is now there a synchronization is asked for, and the
operation succeeds whatever comes of it. -/
theorem ok_of_updated {update : DeploymentUpdate} {exchanges : List AnsweredCall}
    {outcome : Outcome Deployment}
    (trace : (updateDeployment home now id update).Trace exchanges outcome) {put : Request} {updated : Json}
    (sent : ⟨.request put, .ok updated⟩ ∈ exchanges) (puts : put.method = .put) :
    ∃ answer, [⟨.request put, .ok updated⟩, ⟨.request (syncRequest home id), answer⟩] <:+ exchanges ∧
      outcome = .ok (afterSync (toDeployment now updated) answer) := by
  have mutates : Call.mutates (.request put) = true := by
    simp [puts]
  unfold updateDeployment at trace
  obtain ⟨_, start, _, -, trace, begun, sent⟩ := Program.ReadOnly.change_after (by simp) trace sent mutates
  obtain ⟨_, -, trace⟩ := Program.passed_of_sent trace sent
  obtain ⟨app, found, _, -, trace, read, sent⟩ :=
    (readOnly_application "update").change_after trace sent mutates
  obtain ⟨_, connection, _, -, trace, connected, sent⟩ :=
    Program.ReadOnly.change_after (by simp) trace sent mutates
  obtain ⟨reply, rest, split, replied⟩ := Program.trace_call_iff.mp trace
  rcases reply with error | body
  · obtain ⟨rfl, -⟩ := Program.trace_done_iff.mp replied
    rw [split] at sent
    cases List.mem_singleton.mp sent
  · obtain ⟨answer, last, rfl, answered⟩ := Program.trace_call_iff.mp replied
    have ended : last = [] ∧ outcome = .ok (afterSync (toDeployment now body) answer) := by
      rcases answer with error | synced <;> exact Program.trace_done_iff.mp answered
    obtain ⟨rfl, rfl⟩ := ended
    rw [split] at sent
    rcases List.mem_cons.mp sent with same | later
    · cases same
      refine ⟨answer, ?_, rfl⟩
      rw [begun, read, connected, split, ← List.append_assoc, ← List.append_assoc]
      exact List.suffix_append _ _
    · have posts : put = syncRequest home id := by
        cases List.mem_singleton.mp later
        rfl
      rw [posts] at puts
      cases puts

theorem get?_syncError_afterSync (deployment : Deployment) (error : ServerError) :
    (afterSync deployment (.error error)).extensions.get? "syncError" =
      some (.string (error.message?.getD "")) :=
  SortedMap.get?_insert_self _ _ _

/-! Ways through a rollback that is accepted. -/

/-- The exchanges of a rollback up to the answer that follows it. -/
def rollbackExchanges (home id : String) (entry : Int) (app body : Json)
    (answer : Except ServerError Json) : List AnsweredCall :=
  [⟨.checkpoint, .ok ()⟩, ⟨.connect .server, .ok ()⟩, ⟨.request (getRequest home id), .ok app⟩,
    ⟨.connect .server, .ok ()⟩, ⟨.request (rollbackRequest home id entry), .ok body⟩,
    ⟨.request (getRequest home id), answer⟩]

/-- Wherever a rollback finds its entry, the server may accept it and give any answer afterwards. -/
theorem trace_rollbackDeployment {revision : Int64} (name : IsName id) (natural : ¬ revision < 0)
    {app : Json} {entry : Int} (found : entryId app id revision = .ok entry) (body : Json)
    (answer : Except ServerError Json) :
    (rollbackDeployment home now id revision).Trace (rollbackExchanges home id entry app body answer)
      ((answer.map (toDeployment now)).mapError (applicationFailure "rollback" id)) := by
  have named : checkName "id" id = .ok () := checkName_ok_iff.mpr name
  have checked : checkRevision revision = .ok () := if_neg natural
  have last : (Program.ofOutcome (entryId app id revision) >>= fun entry => do
      Program.connect .server
      returnTo home now id entry).Trace
        [⟨.connect .server, .ok ()⟩, ⟨.request (rollbackRequest home id entry), .ok body⟩,
          ⟨.request (getRequest home id), answer⟩]
        ((answer.map (toDeployment now)).mapError (applicationFailure "rollback" id)) := by
    rw [found]
    refine .call _ (.call _ (.call _ ?_))
    rcases answer with error | restored <;> exact .done _
  simp only [rollbackDeployment, application, named, checked]
  exact .call _ (.call _ (.call _ last))

end Application.OnServer

end DeploymentGateway
