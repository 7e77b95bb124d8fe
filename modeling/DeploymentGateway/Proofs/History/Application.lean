import DeploymentGateway.Application.OnServer
import DeploymentGateway.Proofs.Cluster.Object
import DeploymentGateway.Proofs.History.Position
/-!
Histories and rollbacks of applications, as objects of the cluster and through their server.
-/

set_option autoImplicit false

namespace DeploymentGateway

open Cluster

namespace Application.OnCluster

variable {home id : String} {now : Time.Instant} {view : View} {history : History}

/-- Of an application whose history is shown. -/
private theorem shown_application
    (shown : (deploymentHistory home now id).begin view = .ended (.ok history)) :
    view .checkpoint = .ok () ∧ Rules.checkName "id" id = .ok () ∧
      view (.connect .cluster) = .ok () ∧
      ∃ app, view (.get kind home id) = .ok app ∧ history = toHistory now app := by
  rcases waits : view .checkpoint with failure | ⟨⟩
  · simp [deploymentHistory, waits] at shown
  rcases named : Rules.checkName "id" id with failure | ⟨⟩
  · simp [deploymentHistory, application, waits, named] at shown
  rcases connected : view (.connect .cluster) with failure | ⟨⟩
  · simp [deploymentHistory, application, waits, named, connected] at shown
  rcases found : view (.get kind home id) with error | app
  · simp [deploymentHistory, application, waits, named, connected, found] at shown
  simp [deploymentHistory, application, waits, named, connected, found] at shown
  exact ⟨rfl, rfl, rfl, app, rfl, shown.symm⟩

/-- The application pinned to an entry of its history. -/
private def pinnedTo (app : Json) (id : String) (revision : Int64) (entry : Json) : Outcome Json :=
  let target := entry.stringAt ["revision"]
  if target = "" then
    .error (.malformed backend "rollback" id
      ("history entry " ++ Text.signedDecimal revision.toInt ++ " carries no source revision"))
  else
    .ok ((app.set (.string target) ["spec", "source", "targetRevision"]).set (.string "hard")
      ["metadata", "annotations", refreshAnnotation])

private theorem pinned_eq (app : Json) (id : String) (revision : Int64) :
    pinned app id revision =
      (do
        let index ← Listing.historyIndex id revision (app.arrayAt ["status", "history"]).length
        pinnedTo app id revision ((app.arrayAt ["status", "history"]).getD index .null)) := by
  refine congrArg (Listing.historyIndex id revision _ >>= ·) (funext fun index => ?_)
  unfold pinnedTo
  by_cases blank :
      ((app.arrayAt ["status", "history"]).getD index .null).stringAt ["revision"] = ""
  · simp only [blank]
    rfl
  · simp only [String.isEmpty_iff, blank]
    rfl

private theorem meets_write {targets : Call → Prop}
    (connected : view (.connect .cluster) = .ok ()) (app : Json) :
    ((write home now "rollback" app).begin view).Meets targets ↔
      targets (.update kind home app) := by
  simp [write, connected, Start.Meets, forall_reply]

/-- The first change of a rollback sets an application to the version of the revision. -/
def Targets (home id : String) (view : View) (entry : Revision) (c : Call) : Prop :=
  ∃ found app, view (.get kind home id) = .ok found ∧ c = .update kind home app ∧
    nameOf app = nameOf found ∧
    app.lookup ["spec", "source", "targetRevision"] = some (.string entry.version)

/-- A rollback starts as the history of its application has it. -/
theorem rollsBack {revision : Int64}
    (shown : (deploymentHistory home now id).begin view = .ended (.ok history)) :
    RollsBack id revision history.revisions (fun _ => Targets home id view)
      ((rollbackDeployment home now id revision).begin view) := by
  obtain ⟨waits, named, connected, app, found, rfl⟩ := shown_application shown
  refine .of_historyIndex (fun index => (do
      let changed ← Program.ofOutcome (pinnedTo app id revision
        ((app.arrayAt ["status", "history"]).getD index .null))
      write home now "rollback" changed).begin view) (numbered_of_zipIdx _ _ fun _ _ => rfl)
    ?_ ?_ ?_
  · intro failure checked
    simp [rollbackDeployment, waits, named, checked]
  · intro checked
    have length : (toHistory now app).revisions.length =
        (app.arrayAt ["status", "history"]).length := by simp [toHistory]
    rw [length]
    rcases within : Listing.historyIndex id revision (app.arrayAt ["status", "history"]).length with
      failure | index
    all_goals
      simp [rollbackDeployment, application, waits, named, connected, found, checked, pinned_eq,
        within]
      rfl
  · intro index entry shown
    obtain ⟨item, there, rfl⟩ := item_of_zipIdx shown
    rw [List.getD_eq_getElem?_getD, there, Option.getD_some]
    by_cases blank : item.stringAt ["revision"] = ""
    · simp [pinnedTo, blank, Start.Meets, Failure.malformed]
    · rw [pinnedTo, if_neg blank, Program.ofOutcome, Program.done_ok_bind, meets_write connected]
      refine ⟨app, _, found, rfl, ?_, ?_⟩
      · rw [nameOf_set_of_diverges (by simp), nameOf_set_of_diverges (by simp)]
      · rw [Json.lookup_set_of_names (by simp) (by decide), Json.lookup_set_self]

end Application.OnCluster

namespace Application.OnServer

open Server

variable {home id : String} {now : Time.Instant} {view : View} {history : History}

@[simp]
theorem not_isRevisionNotFound_applicationFailure (operation id : String) (error : ServerError) :
    ¬ (applicationFailure operation id error).IsRevisionNotFound := by
  rintro ⟨_, _, _, same⟩
  unfold applicationFailure at same
  split at same <;> cases same

@[simp]
theorem getRequest_method (home id : String) : (getRequest home id).method = .get :=
  rfl

@[simp]
theorem rollbackRequest_method (home id : String) (number : Int) :
    (rollbackRequest home id number).method = .post :=
  rfl

private theorem shown_application
    (shown : (deploymentHistory home now id).begin view = .ended (.ok history)) :
    view .checkpoint = .ok () ∧ Rules.checkName "id" id = .ok () ∧
      view (.connect .server) = .ok () ∧
      ∃ app, view (.request (getRequest home id)) = .ok app ∧ history = toHistory now app := by
  rcases waits : view .checkpoint with failure | ⟨⟩
  · simp [deploymentHistory, waits] at shown
  rcases named : Rules.checkName "id" id with failure | ⟨⟩
  · simp [deploymentHistory, application, waits, named] at shown
  rcases connected : view (.connect .server) with failure | ⟨⟩
  · simp [deploymentHistory, application, waits, named, connected] at shown
  rcases found : view (.request (getRequest home id)) with error | app
  · simp [deploymentHistory, application, waits, named, connected, found] at shown
  simp [deploymentHistory, application, waits, named, connected, found] at shown
  exact ⟨rfl, rfl, rfl, app, rfl, shown.symm⟩

/-- The id of an entry of a history. -/
private def entryIdOf (id : String) (revision : Int64) (entry : Json) : Outcome Int :=
  match entry.intAt ["id"] with
  | some number => .ok number
  | none => .error (.malformed backend "rollback" id
      ("history entry " ++ Text.signedDecimal revision.toInt ++ " has no id"))

private theorem entryId_eq (app : Json) (id : String) (revision : Int64) :
    entryId app id revision =
      (do
        let index ← Listing.historyIndex id revision (app.arrayAt ["status", "history"]).length
        entryIdOf id revision ((app.arrayAt ["status", "history"]).getD index .null)) :=
  rfl

/-- The first change of a rollback posts the number that the entry at a position has itself. -/
def Targets (home id : String) (view : View) (index : Nat) (entry : Revision) (c : Call) : Prop :=
  ∃ app item number, view (.request (getRequest home id)) = .ok app ∧
    (app.arrayAt ["status", "history"])[index]? = some item ∧
    entry.version = item.stringAt ["revision"] ∧ item.intAt ["id"] = some number ∧
    c = .request (rollbackRequest home id number)

/-- A rollback starts as the history of its application has it. -/
theorem rollsBack {revision : Int64}
    (shown : (deploymentHistory home now id).begin view = .ended (.ok history)) :
    RollsBack id revision history.revisions (Targets home id view)
      ((rollbackDeployment home now id revision).begin view) := by
  obtain ⟨waits, named, connected, app, found, rfl⟩ := shown_application shown
  refine .of_historyIndex (fun index => (do
      let number ← Program.ofOutcome (entryIdOf id revision
        ((app.arrayAt ["status", "history"]).getD index .null))
      .connect .server
      let _ ← Program.expect (← .request (rollbackRequest home id number))
        (applicationFailure "rollback" id)
      let restored ← Program.expect (← .request (getRequest home id))
        (applicationFailure "rollback" id)
      return toDeployment now restored).begin view) (numbered_of_zipIdx _ _ fun _ _ => rfl)
    ?_ ?_ ?_
  · intro failure checked
    simp [rollbackDeployment, waits, named, checked]
  · intro checked
    have length : (toHistory now app).revisions.length =
        (app.arrayAt ["status", "history"]).length := by simp [toHistory]
    rw [length]
    rcases within : Listing.historyIndex id revision (app.arrayAt ["status", "history"]).length with
      failure | index
    all_goals
      simp [rollbackDeployment, application, waits, named, connected, found, checked, entryId_eq,
        within]
      rfl
  · intro index entry shown
    obtain ⟨item, there, rfl⟩ := item_of_zipIdx shown
    rw [List.getD_eq_getElem?_getD, there, Option.getD_some]
    rcases numbered : item.intAt ["id"] with _ | number
    · simp [entryIdOf, numbered, Start.Meets, Failure.malformed]
    · simp [entryIdOf, numbered, connected, Start.Meets, forall_reply]
      exact ⟨app, item, number, found, there, rfl, numbered, rfl⟩

end Application.OnServer

end DeploymentGateway
