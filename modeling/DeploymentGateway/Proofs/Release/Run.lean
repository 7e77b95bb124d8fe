import DeploymentGateway.Proofs.Program.Run
import DeploymentGateway.Proofs.Refusal.Release
import DeploymentGateway.Proofs.Release.Filing
/-!
What runs leave of the releases of the manager. Each call to the manager is answered from the releases
alone, and what follows a call to keep a record changes none of them.
-/

set_option autoImplicit false

namespace DeploymentGateway

namespace Program.Ensures

open Release

variable {α : Type} {now : Time.Instant} {store : Release.Store}
  {post : Outcome α → Release.Store → Prop} {home name : String}

theorem releaseList {«namespace» selector : Option String}
    {f : Except ReleaseError (List ReleaseRevision) → Program α}
    (h : (f (.ok (store.list «namespace»))).Ensures .releases now store post) :
    (Program.releaseList «namespace» selector >>= f).Ensures .releases now store post := by
  refine .call fun memory waits same => ?_
  obtain rfl : memory.releases = store := same
  exact h

theorem releaseStatus {f : Except ReleaseError ReleaseRevision → Program α}
    (h : (f (store.status home name)).Ensures .releases now store post) :
    (Program.releaseStatus home name >>= f).Ensures .releases now store post := by
  refine .call fun memory waits same => ?_
  obtain rfl : memory.releases = store := same
  exact h

theorem releaseHistory {f : Except ReleaseError (List ReleaseRevision) → Program α}
    (h : (f (store.history home name)).Ensures .releases now store post) :
    (Program.releaseHistory home name >>= f).Ensures .releases now store post := by
  refine .call fun memory waits same => ?_
  obtain rfl : memory.releases = store := same
  exact h

theorem install {request : InstallRequest} {f : Except ReleaseError ReleaseRevision → Program α}
    (h : (f (store.install now request).1).Ensures .releases now (store.install now request).2 post) :
    (Program.install request >>= f).Ensures .releases now store post := by
  refine .call fun memory waits same => ?_
  obtain rfl : memory.releases = store := same
  exact h

theorem upgrade {request : UpgradeRequest} {f : Except ReleaseError ReleaseRevision → Program α}
    (h : (f (store.upgrade now request).1).Ensures .releases now (store.upgrade now request).2 post) :
    (Program.upgrade request >>= f).Ensures .releases now store post := by
  refine .call fun memory waits same => ?_
  obtain rfl : memory.releases = store := same
  exact h

theorem uninstall {f : Except ReleaseError Unit → Program α}
    (h : (f (store.uninstall home name).1).Ensures .releases now (store.uninstall home name).2 post) :
    (Program.uninstall home name >>= f).Ensures .releases now store post := by
  refine .call fun memory waits same => ?_
  obtain rfl : memory.releases = store := same
  exact h

theorem rollback {revision : Int64} {f : Except ReleaseError Unit → Program α}
    (h : (f (store.rollback home name revision).1).Ensures .releases now
      (store.rollback home name revision).2 post) :
    (Program.rollback home name revision >>= f).Ensures .releases now store post := by
  refine .call fun memory waits same => ?_
  obtain rfl : memory.releases = store := same
  exact h

end Program.Ensures

namespace Release.OnManager

open Rules

variable {now : Time.Instant} {store : Store} {operation id : String}

/-- To keep the record of a release leaves the releases, and never fails. -/
theorem ensures_remember (revision : ReleaseRevision) (source : ChartSource) :
    (remember revision source).Ensures .releases now store fun outcome after =>
      outcome = .ok () ∧ after = store := by
  refine .aside (fun _ _ => rfl) fun connected => ?_
  rcases connected with failure | ⟨⟩
  · exact .done ⟨rfl, rfl⟩
  refine .aside (fun _ _ => rfl) fun found => ?_
  rcases found with (_ | _ | _ | _) | existing
  · refine .aside (fun _ _ => rfl) fun made => ?_
    rcases made with error | object <;> exact .done ⟨rfl, rfl⟩
  · exact .done ⟨rfl, rfl⟩
  · exact .done ⟨rfl, rfl⟩
  · exact .done ⟨rfl, rfl⟩
  · refine .aside (fun _ _ => rfl) fun made => ?_
    rcases made with error | object <;> exact .done ⟨rfl, rfl⟩

/-- To renew a record leaves the releases, and tells of the revision that was restored. -/
theorem ensures_renew (home : String) (restored : ReleaseRevision) :
    (renew now home id restored).Ensures .releases now store fun outcome after =>
      outcome = .ok (toDeployment now restored) ∧ after = store := by
  refine ((readOnly_recordedSource "rollback" home id).ensures _).attempt.bind ?_ ?_
  · rintro _ _ ⟨failure | _ | source, ⟨⟩, rfl⟩
    · exact .done ⟨rfl, rfl⟩
    · exact .done ⟨rfl, rfl⟩
    · refine (ensures_remember restored source).bind ?_ fun _ _ ended => nomatch ended.1
      rintro ⟨⟩ _ ⟨-, rfl⟩
      exact .done ⟨rfl, rfl⟩
  · rintro _ _ ⟨_, ⟨⟩, -⟩

/-- To forget the source of a release leaves the releases, and never fails. -/
theorem ensures_forgetSource (home : String) :
    (forgetSource home id).Ensures .releases now store fun outcome after =>
      outcome = .ok () ∧ after = store := by
  refine .aside (fun _ _ => rfl) fun connected => ?_
  rcases connected with failure | ⟨⟩
  · exact .done ⟨rfl, rfl⟩
  · exact .aside (fun _ _ => rfl) fun _ => .done ⟨rfl, rfl⟩

/-- An id leads to the one namespace that has a release of its name. -/
theorem ensures_locate :
    (locate operation id).Ensures .releases now store fun outcome after => after = store ∧
      ∀ home, outcome = .ok home → checkName "id" id = .ok () ∧ store.namespaces id = [home] := by
  refine .check (fun _ _ => ⟨rfl, nofun⟩) fun _ checked => .connect ⟨rfl, nofun⟩ (.releaseList ?_)
  rcases listed : store.namespaces id with _ | ⟨home, _ | ⟨other, rest⟩⟩ <;>
    rw [Store.namespaces] at listed <;> simp only [Program.expect_ok, Program.done_ok_bind, listed]
  · refine .done ⟨rfl, ?_⟩
    rintro _ ⟨⟩
  · refine .done ⟨rfl, ?_⟩
    rintro _ ⟨⟩
    exact ⟨checked, rfl⟩
  · refine .done ⟨rfl, ?_⟩
    rintro _ ⟨⟩

/-- What an operation on an id starts from is the last revision of the release that it leads to. -/
theorem ensures_current :
    (current operation id).Ensures .releases now store fun outcome after => after = store ∧
      ∀ revision, outcome = .ok revision → checkName "id" id = .ok () ∧
        ∃ home, store.namespaces id = [home] ∧ store.latest? home id = some revision := by
  refine ensures_locate.bind ?_ fun failure after located => ⟨located.1, nofun⟩
  rintro home _ ⟨rfl, located⟩
  obtain ⟨checked, listed⟩ := located home rfl
  refine .connect ⟨rfl, nofun⟩ (.releaseStatus ?_)
  unfold Store.status
  split
  · rename_i last latest
    refine .done ⟨rfl, ?_⟩
    rintro _ ⟨⟩
    exact ⟨checked, home, listed, latest⟩
  · exact .done ⟨rfl, nofun⟩

end Release.OnManager

end DeploymentGateway
