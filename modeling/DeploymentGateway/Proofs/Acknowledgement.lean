import DeploymentGateway.Proofs.Acknowledgement.Release
import DeploymentGateway.Proofs.Acknowledgement.Server
/-!
What is reported of a change that a back end has acknowledged. A rollback succeeds only if it was acknowledged,
but not whenever it was: it fails as well where what was restored could not be read afterwards. An update
succeeds whenever it was acknowledged, and has the failure of the synchronization after it in an extension.
-/

set_option autoImplicit false

namespace DeploymentGateway

namespace Application.OnServer

open Server

/-- What a rollback of an application reports after some exchanges. -/
structure ReportsRollback (home id : String) (exchanges : List AnsweredCall)
    (outcome : Outcome Deployment) : Prop where
  fails : ∀ entry reply, ⟨.request (rollbackRequest home id entry), reply⟩ ∈ exchanges → Accepted reply →
    ((∃ failure, outcome = .error failure) ↔
      (∃ reason, reply = .error (.undecodable reason)) ∨
        ∃ error, [⟨.request (rollbackRequest home id entry), reply⟩,
          ⟨.request (getRequest home id), .error error⟩] <:+ exchanges)
  succeeds : ∀ deployment, outcome = .ok deployment →
    ∃ entry body, ⟨.request (rollbackRequest home id entry), .ok body⟩ ∈ exchanges

/-- What an update of an application reports after some exchanges. -/
structure ReportsUpdate (home : String) (now : Time.Instant) (id : String)
    (exchanges : List AnsweredCall) (outcome : Outcome Deployment) : Prop where
  succeeds : ∀ put updated, ⟨.request put, .ok updated⟩ ∈ exchanges → put.method = .put →
    ∃ answer deployment,
      [⟨.request put, .ok updated⟩, ⟨.request (syncRequest home id), answer⟩] <:+ exchanges ∧
        outcome = .ok deployment ∧
        (∀ synced, answer = .ok synced → deployment = toDeployment now updated) ∧
        ∀ error, answer = .error error →
          deployment.extensions.get? "syncError" = some (.string (error.message?.getD ""))

theorem reportsRollback_of_trace {home id : String} {now : Time.Instant} {revision : Int64}
    {exchanges : List AnsweredCall} {outcome : Outcome Deployment}
    (trace : (rollbackDeployment home now id revision).Trace exchanges outcome) :
    ReportsRollback home id exchanges outcome where
  fails _ _ sent accepted := error_iff_of_accepted trace sent accepted
  succeeds := by
    rintro deployment rfl
    exact accepted_of_ok trace

theorem reportsUpdate_of_trace {home id : String} {now : Time.Instant} {update : DeploymentUpdate}
    {exchanges : List AnsweredCall} {outcome : Outcome Deployment}
    (trace : (updateDeployment home now id update).Trace exchanges outcome) :
    ReportsUpdate home now id exchanges outcome where
  succeeds put updated sent puts := by
    obtain ⟨answer, followed, rfl⟩ := ok_of_updated trace sent puts
    refine ⟨answer, _, followed, rfl, ?_, ?_⟩
    · rintro synced rfl
      rfl
    · rintro error rfl
      exact get?_syncError_afterSync _ error

end Application.OnServer

namespace Release.OnManager

/-- What a rollback of a release reports after some exchanges. -/
structure ReportsRollback (id : String) (exchanges : List AnsweredCall) (outcome : Outcome Deployment) :
    Prop where
  fails : ∀ home name target reply, ⟨.rollback home name target, reply⟩ ∈ exchanges →
    Acknowledged home name target reply →
    ((∃ failure, outcome = .error failure) ↔
      ∃ error, [⟨.rollback home name target, reply⟩, ⟨.releaseStatus home name, .error error⟩]
        <:+ exchanges)
  succeeds : ∀ deployment, outcome = .ok deployment →
    ∃ home target, ⟨.rollback home id target, .ok ()⟩ ∈ exchanges

theorem reportsRollback_of_trace {now : Time.Instant} {id : String} {revision : Int64}
    {exchanges : List AnsweredCall} {outcome : Outcome Deployment}
    (trace : (rollbackDeployment now id revision).Trace exchanges outcome) :
    ReportsRollback id exchanges outcome where
  fails _ _ _ _ sent acknowledged := error_iff_of_acknowledged trace sent acknowledged
  succeeds := by
    rintro deployment rfl
    exact acknowledged_of_ok trace

end Release.OnManager

/-- On every way through them, with any answers, rollbacks and updates report what they do: of a rollback that was
acknowledged the failure is one to read, and of an update that was acknowledged there is none. -/
theorem reports_of_acknowledged (now : Time.Instant) :
    (∀ home id revision exchanges outcome,
      (Application.OnServer.rollbackDeployment home now id revision).Trace exchanges outcome →
        Application.OnServer.ReportsRollback home id exchanges outcome) ∧
    (∀ id revision exchanges outcome,
      (Release.OnManager.rollbackDeployment now id revision).Trace exchanges outcome →
        Release.OnManager.ReportsRollback id exchanges outcome) ∧
    ∀ home id update exchanges outcome,
      (Application.OnServer.updateDeployment home now id update).Trace exchanges outcome →
        Application.OnServer.ReportsUpdate home now id exchanges outcome :=
  ⟨fun _ _ _ _ _ => Application.OnServer.reportsRollback_of_trace,
    fun _ _ _ _ => Release.OnManager.reportsRollback_of_trace,
    fun _ _ _ _ _ => Application.OnServer.reportsUpdate_of_trace⟩

/-! An application and a release web, each with one entry in its history. -/

private def deployed : Json :=
  .ofPairs [("metadata", .ofPairs [("name", .string "web")]),
    ("status", .ofPairs [("history", .array [.ofPairs [("id", .ofInt 7)]])])]

private def released : Release.ReleaseRevision where
  name := "web"
  «namespace» := "prod"
  revision := 1
  chart := "nginx"
  chartVersion := "1.0.0"
  appVersion := ""
  status := .deployed
  firstDeployed := none
  lastDeployed := none
  description := ""
  config := .empty

private theorem named_web : Rules.IsName "web" :=
  Rules.checkName_ok_iff.mp (show Rules.checkName "id" "web" = .ok () from rfl)

private theorem accepted_null : Server.Accepted (.ok .null) :=
  ⟨⟨200, ""⟩, rfl, rfl⟩

private def answering : List AnsweredCall :=
  Application.OnServer.rollbackExchanges "argocd" "web" 7 deployed .null (.ok deployed)

/-- A rollback that is accepted and read afterwards has not failed. -/
theorem reports_of_acknowledged_read :
    (Application.OnServer.rollbackDeployment "argocd" ⟨0, 0⟩ "web" 0).Trace answering
        (.ok (Application.toDeployment ⟨0, 0⟩ deployed)) ∧
      ⟨.request (Application.OnServer.rollbackRequest "argocd" "web" 7), .ok .null⟩ ∈ answering ∧
      Server.Accepted (.ok .null) ∧
      ¬ ∃ error, [⟨.request (Application.OnServer.rollbackRequest "argocd" "web" 7), .ok .null⟩,
        ⟨.request (Application.OnServer.getRequest "argocd" "web"), .error error⟩] <:+ answering := by
  have trace : (Application.OnServer.rollbackDeployment "argocd" ⟨0, 0⟩ "web" 0).Trace answering
      (.ok (Application.toDeployment ⟨0, 0⟩ deployed)) :=
    Application.OnServer.trace_rollbackDeployment named_web (by decide) rfl .null (.ok deployed)
  have sent : ⟨.request (Application.OnServer.rollbackRequest "argocd" "web" 7), .ok .null⟩ ∈ answering := by
    simp [answering, Application.OnServer.rollbackExchanges]
  have reports := (reports_of_acknowledged ⟨0, 0⟩).1 _ _ _ _ _ trace
  refine ⟨trace, sent, accepted_null, fun lost => ?_⟩
  obtain ⟨failure, ⟨⟩⟩ := (reports.fails 7 _ sent accepted_null).mpr (.inr lost)

private def awayServer : List AnsweredCall :=
  Application.OnServer.rollbackExchanges "argocd" "web" 7 deployed .null (.error (.status 503 "down"))

private def awayManager : List AnsweredCall :=
  Release.OnManager.lostExchanges "web" released [released] released (.commandFailed "status web" "down")

/-- Rollbacks that a server and a manager have carried out are told as failures, since both were away when asked
for what was restored. -/
theorem acknowledged_rollback_fails :
    ((∃ failure, (Application.OnServer.rollbackDeployment "argocd" ⟨0, 0⟩ "web" 0).Trace awayServer
        (.error failure)) ∧
      ⟨.request (Application.OnServer.rollbackRequest "argocd" "web" 7), .ok .null⟩ ∈ awayServer ∧
      Server.Accepted (.ok .null)) ∧
    (∃ failure, (Release.OnManager.rollbackDeployment ⟨0, 0⟩ "web" 0).Trace awayManager
        (.error failure)) ∧
      ⟨.rollback "prod" "web" 1, .ok ()⟩ ∈ awayManager ∧
      Release.Acknowledged "prod" "web" 1 (.ok ()) := by
  constructor
  · refine ⟨⟨Application.OnServer.applicationFailure "rollback" "web" (.status 503 "down"), ?_⟩, ?_,
      accepted_null⟩
    · exact Application.OnServer.trace_rollbackDeployment named_web (by decide) rfl .null
        (.error (.status 503 "down"))
    · simp [awayServer, Application.OnServer.rollbackExchanges]
  · refine ⟨⟨Release.releaseFailure "rollback" "web" (.commandFailed "status web" "down"), ?_⟩, ?_,
      Release.acknowledged_iff.mpr rfl⟩
    · exact Release.OnManager.trace_rollbackDeployment_lost named_web (by decide) rfl rfl rfl
        (.commandFailed "status web" "down")
    · simp [awayManager, Release.OnManager.lostExchanges, released]

end DeploymentGateway
