import DeploymentGateway.Proofs.Refusal.Action
import DeploymentGateway.Proofs.Release.Rollback
/-!
Operations on releases are not refused after a change. What they do after the manager has answered is to
keep their own record, and that never fails.
-/

set_option autoImplicit false

namespace DeploymentGateway

namespace Release.OnManager

variable {refusal : Failure → Prop}

theorem readOnly_locate (operation id : String) : (locate operation id).ReadOnly := by
  simp [locate, forall_reply]
  intro _ _ listed
  split <;> simp

theorem readOnly_current (operation id : String) : (current operation id).ReadOnly :=
  Program.readOnly_bind (readOnly_locate operation id) fun home => by simp

theorem readOnly_installed : installed.ReadOnly := by
  simp [installed]

theorem readOnly_recordedSource (operation home id : String) :
    (recordedSource operation home id).ReadOnly := by
  refine Program.readOnly_bind (by simp) fun _ => Program.readOnly_bind (by simp) fun reply => ?_
  rcases reply with (_ | _ | _ | _) | record <;> simp

theorem readOnly_chartOf (package : String) : (chartOf package).ReadOnly := by
  refine Program.readOnly_bind (by simp) fun _ => Program.readOnly_bind (by simp) fun reply =>
    Program.readOnly_bind (by simp) fun records => ?_
  generalize (records.filterMap fun record => _) = sources
  cases sources with
  | cons found others => simp
  | nil =>
    refine Program.readOnly_bind readOnly_installed fun revisions => ?_
    split <;> simp

theorem readOnly_action (now : Time.Instant) {action : Action} (reads : action.reads = true) :
    (action.program (operations now)).ReadOnly := by
  cases action with
  | listPackages filter => simp [operations, listPackages, installed, forall_reply]
  | getPackage id =>
    simp [operations, getPackage, installed, forall_reply]
    intro revisions
    split <;> simp
  | listDeployments filter => simp [operations, listDeployments, forall_reply]
  | getDeployment id => simp [operations, getDeployment, Program.readOnly_bind, readOnly_current]
  | deploymentStatus id =>
    simp [operations, deploymentStatus, Program.readOnly_bind, readOnly_current]
  | deploymentHistory id =>
    refine Program.readOnly_bind (by simp) fun _ =>
      Program.readOnly_bind (readOnly_locate _ id) fun home => ?_
    simp [forall_reply]
  | deploymentLogs id options =>
    refine Program.readOnly_bind (by simp) fun _ => Program.readOnly_bind (by simp) fun _ =>
      Program.readOnly_bind (readOnly_locate _ id) fun home => ?_
    simp [forall_reply]
  | health => simp [operations, health, forall_reply]
  | _ => cases reads

theorem readOnly_requestedSource (request : DeploymentRequest) (version repo : Option String) :
    (requestedSource request version repo).ReadOnly := by
  refine Program.readOnly_bind (by simp) fun chart => ?_
  split
  · exact Program.readOnly_bind (readOnly_chartOf _) fun _ => by simp
  · simp

theorem readOnly_updatedSource (revision : ReleaseRevision) (id : String)
    (update : DeploymentUpdate) (chart version repo : Option String) :
    (updatedSource revision id update chart version repo).ReadOnly := by
  unfold updatedSource
  split
  · simp
  · exact Program.readOnly_bind (readOnly_chartOf _) fun _ => by simp
  · refine Program.readOnly_bind (readOnly_recordedSource _ _ id) fun source => ?_
    split <;> simp

theorem never_forgetSource (home id : String) : (forgetSource home id).Never refusal := by
  refine Program.never_bind (by simp) fun connected => ?_
  cases connected <;> simp

theorem careful_upgrade (now : Time.Instant) (operation : String) (request : UpgradeRequest)
    (source : ChartSource) : (upgrade now operation request source).Careful refusal := by
  simp [upgrade, forall_reply, Program.never_bind, never_remember]

theorem careful_action (now : Time.Instant) {action : Action}
    (other : ∀ id revision, action ≠ .rollbackDeployment id revision) :
    (action.program (operations now)).Careful refusal := by
  by_cases reads : action.reads = true
  · exact (readOnly_action now reads).careful
  cases action with
  | uploadPackage upload => simp [operations, uploadPackage]
  | deletePackage id => simp [operations, deletePackage]
  | createDeployment request =>
    refine Program.ReadOnly.bind_careful (by simp) fun _ =>
      Program.ReadOnly.bind_careful (by simp) fun _ =>
        Program.ReadOnly.bind_careful (by simp) fun _ =>
          Program.ReadOnly.bind_careful (by simp) fun version =>
            Program.ReadOnly.bind_careful (by simp) fun repo =>
              (readOnly_requestedSource request version repo).bind_careful fun source => ?_
    simp [forall_reply, Program.never_bind, never_remember]
  | updateDeployment id update =>
    refine Program.ReadOnly.bind_careful (by simp) fun _ =>
      Program.ReadOnly.bind_careful (by simp) fun chart =>
        Program.ReadOnly.bind_careful (by simp) fun version =>
          Program.ReadOnly.bind_careful (by simp) fun repo =>
            (readOnly_current _ id).bind_careful fun revision =>
              (readOnly_updatedSource revision id update chart version repo).bind_careful fun source =>
                careful_upgrade now _ _ _
  | deleteDeployment id =>
    refine Program.ReadOnly.bind_careful (by simp) fun _ =>
      (readOnly_locate _ id).bind_careful fun home => ?_
    simp [forall_reply, never_forgetSource]
  | scaleDeployment id replicas =>
    refine Program.ReadOnly.bind_careful (by simp) fun _ =>
      Program.ReadOnly.bind_careful (by simp) fun _ =>
        Program.ReadOnly.bind_careful (by simp) fun _ =>
          (readOnly_current _ id).bind_careful fun revision =>
            (readOnly_recordedSource _ _ id).bind_careful fun source => ?_
    cases source with
    | none => simp
    | some source => exact careful_upgrade now _ _ _
  | rollbackDeployment id revision => exact absurd rfl (other id revision)
  | _ => exact absurd rfl reads

theorem rollbackDeployment_keepsOnFailure (now : Time.Instant) (memory : Memory) (id : String)
    (revision : Int64) : (rollbackDeployment now id revision).KeepsOnFailure now memory :=
  Program.ReadOnly.bind_keepsOnFailure (by simp) fun _ =>
    Program.ReadOnly.bind_keepsOnFailure (by simp) fun _ =>
      Program.ReadOnly.bind_keepsOnFailure (by simp) fun _ =>
        (readOnly_locate _ id).bind_keepsOnFailure fun home =>
          Program.ReadOnly.bind_keepsOnFailure (by simp) fun _ =>
            Program.ReadOnly.bind_keepsOnFailure (by simp) fun reply =>
              Program.ReadOnly.bind_keepsOnFailure (by simp) fun history =>
                Program.ReadOnly.bind_keepsOnFailure (by simp) fun index =>
                  rollbackTo_keepsOnFailure now home id memory _

end Release.OnManager

end DeploymentGateway
