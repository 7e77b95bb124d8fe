import DeploymentGateway.Proofs.Release.OnRecord
/-!
Records that have lost their release. A deletion removes the release first and then its record, so only a
caller who gives up in between leaves one behind. Where there is none, to delete a new release brings back what
was there before it; otherwise the record that was left behind goes too.
-/

set_option autoImplicit false

namespace DeploymentGateway.Release

open Cluster Rules

/-- Every record is that of a release which is there. -/
def NoLeftover (objects : Objects) (store : Store) : Prop :=
  ∀ home name, objects.get? (recordKey home name) ≠ none → store.history? home name ≠ none

/-- No release has been removed. -/
def KeepsReleases (store between : Store) : Prop :=
  ∀ home name, store.history? home name ≠ none → between.history? home name ≠ none

namespace NoLeftover

variable {objects after : Objects} {store : Store} (h : NoLeftover objects store)

include h

theorem push (revision : ReleaseRevision) : NoLeftover objects (store.push revision).2 :=
  fun home name recorded => Store.history?_push_ne_none_iff.mpr (.inr (h home name recorded))

/-- To remember the source of a release that is there leaves nothing over. -/
theorem remembers {gaveUp : Prop} {revision : ReleaseRevision} {source : ChartSource}
    (there : store.history? revision.namespace revision.name ≠ none)
    (remembers : Remembers gaveUp objects revision source after) : NoLeftover after store := by
  cases remembers with
  | lapsed _ => exact h
  | written _ =>
    intro home name recorded
    by_cases same : home = revision.namespace ∧ name = revision.name
    · obtain ⟨rfl, rfl⟩ := same
      exact there
    · rw [SortedMap.get?_insert_of_ne _ (recordKey_ne same)] at recorded
      exact h home name recorded

/-- A release that is removed with its record. -/
theorem erase (home name : String) :
    NoLeftover (objects.erase (recordKey home name)) ⟨store.releases.erase ⟨home, name⟩⟩ := by
  intro home' name' recorded
  by_cases same : home' = home ∧ name' = name
  · obtain ⟨rfl, rfl⟩ := same
    exact absurd (SortedMap.get?_erase_self _ _) recorded
  · rw [SortedMap.get?_erase_of_ne _ (recordKey_ne same)] at recorded
    rw [Store.history?, SortedMap.get?_erase_of_ne]
    · exact h home' name' recorded
    · rintro ⟨⟩
      exact same ⟨rfl, rfl⟩

/-- No step leaves a record over whose caller gives up only where no release has been removed. -/
theorem step {now : Time.Instant} {returns : String → Prop} {s : Objects × Store} (filed : store.Filed)
    (step : Step (fun between => KeepsReleases store between.2) returns now (objects, store) s) :
    NoLeftover s.1 s.2 := by
  cases step with
  | unchanged => exact h
  | installed given chart free remembers =>
    refine NoLeftover.remembers (h.push _) ?_ remembers
    exact Store.history?_push_ne_none_iff.mpr (.inl ⟨rfl, rfl⟩)
  | upgraded given chart latest remembers =>
    refine NoLeftover.remembers (h.push _) ?_ remembers
    exact Store.history?_push_ne_none_iff.mpr (.inl ⟨rfl, rfl⟩)
  | @repeated _ _ _ home id number target restored asked mem latest remembers =>
    have pushed := h.push (Store.repeated target number)
    rcases remembers with rfl | ⟨record, source, -, -, remembers⟩
    · exact pushed
    · obtain ⟨history, found, ends⟩ := Option.bind_eq_some_iff.mp latest
      obtain ⟨rfl, rfl⟩ := (filed.push (Store.repeated target number)).own home id history found
        restored (List.mem_of_getLast? ends)
      refine pushed.remembers ?_ remembers
      rw [found]
      exact Option.some_ne_none history
  | @uninstalled _ _ _ home id found forgets =>
    rcases forgets with rfl | ⟨rfl, gaveUp⟩
    · exact h.erase home id
    · -- The release is gone, so no caller gives up here.
      have gone : (Store.mk (store.releases.erase ⟨home, id⟩)).history? home id = none :=
        SortedMap.get?_erase_self _ _
      exact absurd gone (gaveUp home id found)

end NoLeftover

namespace OnManager

/-- The states that operations lead to whose callers do not give up once a release has been removed. -/
inductive Cleared : Memory → Prop where
  | empty : Cleared .empty
  | run {memory after : Memory} (now : Time.Instant) (action : Action)
    {outcome : Outcome action.Result} : Cleared memory →
      (action.program (operations now)).RunsWhere now
        (fun between => KeepsReleases memory.releases between.releases) memory outcome after →
      Cleared after

theorem Cleared.reached {memory : Memory} (cleared : Cleared memory) : Reached operations memory := by
  induction cleared with
  | empty => exact .empty
  | run now action _ run reached => exact .run now action reached run.runs

theorem Cleared.noLeftover {memory : Memory} (cleared : Cleared memory) :
    NoLeftover memory.cluster.objects memory.releases := by
  induction cleared with
  | empty => exact fun _ _ recorded => absurd rfl recorded
  | @run memory after now action outcome cleared run h =>
    have filed := (dated_of_reached cleared.reached).toFiled
    exact h.step filed (steps_action now (fun between => KeepsReleases memory.releases between.2)
      (memory.cluster.objects, memory.releases) action memory outcome after rfl run)

section

variable {now : Time.Instant} {memory after : Memory} {request : DeploymentRequest}
  {deployment : Deployment}

/-- A release that one namespace has is removed with its record. -/
private theorem deleteDeployment_of_namespaces {home id : String} {history : List ReleaseRevision}
    (checked : checkName "id" id = .ok ()) (listed : memory.releases.namespaces id = [home])
    (found : memory.releases.history? home id = some history) :
    ∃ after, (deleteDeployment id).runInMemory now memory = (.ok (), after) ∧
      after.releases = ⟨memory.releases.releases.erase ⟨home, id⟩⟩ ∧
      after.cluster.objects = memory.cluster.objects.erase (recordKey home id) := by
  rw [Store.namespaces] at listed
  have uninstalled := Store.uninstall_of_some _ found
  refine ⟨⟨(memory.cluster.delete recordKind home (ChartSource.recordName id)).2,
    ⟨memory.releases.releases.erase ⟨home, id⟩⟩⟩, ?_, rfl, Cluster.Store.objects_delete _ _ _ _⟩
  simp [deleteDeployment, locate, checked, listed, uninstalled, forgetSource, Program.attempt]

/-- Whether the source of a new release was remembered or not, without its record the objects are those that
were there before. -/
private theorem Creation.erase_record {mayGiveUp : Objects × Store → Prop} {objects : Objects}
    {store : Store} {after : Objects × Store}
    (creation : Creation mayGiveUp now objects store request (.ok deployment) after) :
    after.1.erase (recordKey deployment.namespace deployment.id) =
      objects.erase (recordKey deployment.namespace deployment.id) := by
  cases creation with
  | made requests free remembers =>
    cases remembers with
    | lapsed _ => rfl
    | written _ => exact SortedMap.erase_insert _ _ _

/-- A new release in a name that no other namespace uses is deleted by its id. That brings back the releases,
and the objects without a record that was there for it before. -/
theorem deleteDeployment_of_created (filed : memory.releases.Filed)
    (run : (createDeployment now request).Runs now memory (.ok deployment) after)
    (alone : ∀ home, memory.releases.history? home request.name ≠ none → home = request.namespace)
    (later : Time.Instant) :
    memory.releases.history? request.namespace request.name = none ∧
    ∃ after', (deleteDeployment deployment.id).runInMemory later after = (.ok (), after') ∧
      after'.releases = memory.releases ∧
      after'.cluster.objects =
        memory.cluster.objects.erase (recordKey request.namespace request.name) := by
  have left := ((createDeployment_where request).ensures memory _ after rfl run).erase_record
  obtain ⟨checked, install, name, space, free, pushed, rfl⟩ :=
    ensures_createDeployment request memory _ after rfl run deployment rfl
  rw [← name] at checked alone ⊢
  rw [← space] at alone ⊢
  let next := Store.installed now install
  have releases : after.releases = (memory.releases.push next).2 := pushed
  have vacant := filed.history?_eq_none_of_latest? (space ▸ name ▸ free)
  obtain ⟨history, there⟩ : ∃ history,
      after.releases.history? install.namespace install.name = some history := by
    rw [releases]
    exact ⟨_, memory.releases.history?_push_self next⟩
  have listed : after.releases.namespaces install.name = [install.namespace] := by
    rw [releases]
    exact filed.namespaces_push alone
  obtain ⟨after', deleted, erased, objects⟩ :=
    deleteDeployment_of_namespaces (checkName_field checked) listed there
  refine ⟨vacant, after', deleted, ?_, objects.trans left⟩
  rw [erased, releases]
  exact congrArg Store.mk (SortedMap.erase_insert_of_get?_eq_none vacant _)

end

end OnManager

end DeploymentGateway.Release
