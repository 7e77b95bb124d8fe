import DeploymentGateway.Proofs.Release.Address
import DeploymentGateway.Proofs.Release.Chart
import DeploymentGateway.Proofs.Release.Step
/-!
The source of every release is on record, as long as callers see through what they begin. To keep a record
is the second step of an operation and its failures are not reported, so this needs that no failure but
the caller's own comes between the steps: a record is only made where there is none, and the cluster
refuses updates at most.
-/

set_option autoImplicit false

namespace DeploymentGateway.Release

open Cluster Rules ChartSource

/-- A release is there just if its record is, and the record has a source. -/
structure Recorded (objects : Objects) (store : Store) (home name : String) : Prop where
  kept : store.history? home name ≠ none ↔ objects.get? (recordKey home name) ≠ none
  source : ∀ record, objects.get? (recordKey home name) = some record →
    record.stringAt ["data", "chart"] ≠ ""

/-- Every release is on record. -/
def OnRecord (objects : Objects) (store : Store) : Prop :=
  ∀ home name, Recorded objects store home name

/-- There are releases of the same names. -/
def SameReleases (store before : Store) : Prop :=
  ∀ home name, store.history? home name ≠ none ↔ before.history? home name ≠ none

namespace OnRecord

variable {objects after : Objects} {store next : Store} (h : OnRecord objects store)

include h

/-- It is enough to look at the one release that something was done to. -/
theorem elsewhere (home name : String)
    (releases : ∀ home' name', ¬ (home' = home ∧ name' = name) →
      next.history? home' name' = store.history? home' name')
    (records : ∀ key, key ≠ recordKey home name → after.get? key = objects.get? key)
    (here : Recorded after next home name) : OnRecord after next := by
  intro home' name'
  by_cases same : home' = home ∧ name' = name
  · obtain ⟨rfl, rfl⟩ := same
    exact here
  · have record := records _ (recordKey_ne same)
    have kept := h home' name'
    exact ⟨by rw [releases _ _ same, record]; exact kept.kept, by rw [record]; exact kept.source⟩

/-- A revision that is added to a release that is on record. -/
theorem push {revision : ReleaseRevision}
    (there : store.history? revision.namespace revision.name ≠ none) :
    OnRecord objects (store.push revision).2 := by
  refine h.elsewhere revision.namespace revision.name
    (fun _ _ other => Store.history?_push_of_ne _ other) (fun _ _ => rfl) ⟨?_, (h _ _).source⟩
  rw [← (h _ _).kept]
  exact ⟨fun _ => there, fun _ => Store.history?_push_ne_none_iff.mpr (.inl ⟨rfl, rfl⟩)⟩

/-- A revision that is added with a record. -/
theorem push_insert {revision : ReleaseRevision} {record : Json}
    (given : record.stringAt ["data", "chart"] ≠ "") :
    OnRecord (objects.insert (recordKey revision.namespace revision.name) record)
      (store.push revision).2 := by
  refine h.elsewhere revision.namespace revision.name
    (fun _ _ other => Store.history?_push_of_ne _ other)
    (fun _ other => SortedMap.get?_insert_of_ne _ other _) ⟨?_, ?_⟩
  · rw [SortedMap.get?_insert_self]
    exact ⟨fun _ => Option.some_ne_none record,
      fun _ => Store.history?_push_ne_none_iff.mpr (.inl ⟨rfl, rfl⟩)⟩
  · intro found stored
    rw [SortedMap.get?_insert_self] at stored
    cases stored
    exact given

/-- A release that is removed with its record. -/
theorem erase (home name : String) :
    OnRecord (objects.erase (recordKey home name)) ⟨store.releases.erase ⟨home, name⟩⟩ := by
  refine h.elsewhere home name ?_ (fun _ other => SortedMap.get?_erase_of_ne _ other) ⟨?_, ?_⟩
  · intro home' name' other
    refine SortedMap.get?_erase_of_ne _ fun same => other ?_
    cases same
    exact ⟨rfl, rfl⟩
  · rw [Store.history?, SortedMap.get?_erase_self, SortedMap.get?_erase_self]
    simp
  · intro record stored
    rw [SortedMap.get?_erase_self] at stored
    cases stored

/-- A revision that is added to a release which is there may be remembered or not. -/
theorem remembers {gaveUp : Prop} {revision : ReleaseRevision} {source : ChartSource}
    (given : source.reference ≠ "") (there : store.history? revision.namespace revision.name ≠ none)
    (remembers : Remembers gaveUp objects (store.push revision).1 source after) :
    OnRecord after (store.push revision).2 := by
  cases remembers with
  | lapsed _ => exact h.push there
  | written described => exact h.push_insert (described.chart ▸ given)

/-- Each step leaves every release on record, if the caller gives up only where all releases are that were
there before, and no others. -/
theorem step {now : Time.Instant} {returns : String → Prop} {s : Objects × Store} (filed : store.Filed)
    (step : Step (fun between => SameReleases between.2 store) returns now (objects, store) s) :
    OnRecord s.1 s.2 := by
  cases step with
  | unchanged => exact h
  | @installed _ after _ request source given chart free remembers =>
    have vacant : store.history? request.namespace request.name = none :=
      filed.history?_eq_none_of_latest? free
    cases remembers with
    | lapsed reason =>
      -- The release is new, so no caller gives up here; nor is there a record to be refused.
      rcases reason with gaveUp | present
      · exact absurd vacant ((gaveUp request.namespace request.name).mp
          (Store.history?_push_ne_none_iff.mpr (.inl ⟨rfl, rfl⟩)))
      · exact absurd vacant ((h request.namespace request.name).kept.mpr present)
    | written described => exact h.push_insert (described.chart ▸ given)
  | @upgraded _ after _ request current source given chart latest remembers =>
    obtain ⟨history, found, ends⟩ := Option.bind_eq_some_iff.mp latest
    obtain ⟨named, placed⟩ := filed.own _ _ history found current (List.mem_of_getLast? ends)
    refine h.remembers given ?_ remembers
    change store.history? current.namespace current.name ≠ none
    rw [named, placed, found]
    exact Option.some_ne_none history
  | @repeated _ after _ home id number target restored asked mem latest remembers =>
    rcases found : store.history? home id with _ | history
    · simp [found] at mem
    rw [found, Option.getD_some] at mem
    obtain ⟨rfl, rfl⟩ := filed.own home id history found target mem
    have there : store.history? target.namespace target.name ≠ none := by
      rw [found]
      exact Option.some_ne_none history
    rcases remembers with rfl | ⟨record, source, -, held, remembers⟩
    · exact h.push there
    · have last := Store.latest?_of_history? _
        (store.history?_push_self (Store.repeated target number))
      obtain rfl : restored = (store.push (Store.repeated target number)).1 :=
        Option.some.inj (latest.symm.trans last)
      exact h.remembers (reference_ne_empty held) there remembers
  | @uninstalled _ after _ home id found forgets =>
    rcases forgets with rfl | ⟨rfl, gaveUp⟩
    · exact h.erase home id
    · -- The release is gone, so no caller gives up here.
      have gone : (Store.mk (store.releases.erase ⟨home, id⟩)).history? home id = none :=
        SortedMap.get?_erase_self _ _
      exact absurd gone ((gaveUp home id).mpr found)

end OnRecord

namespace OnManager

/-- The states that operations lead to whose callers see through what they begin: they give up, if at all,
while the releases are those that were there when the operation began. -/
inductive Attended : Memory → Prop where
  | empty : Attended .empty
  | run {memory after : Memory} (now : Time.Instant) (action : Action)
    {outcome : Outcome action.Result} : Attended memory →
      (action.program (operations now)).RunsWhere now
        (fun between => SameReleases between.releases memory.releases) memory outcome after →
      Attended after

theorem Attended.reached {memory : Memory} (attended : Attended memory) : Reached operations memory := by
  induction attended with
  | empty => exact .empty
  | run now action _ run reached => exact .run now action reached run.runs

theorem Attended.onRecord {memory : Memory} (attended : Attended memory) :
    OnRecord memory.cluster.objects memory.releases := by
  induction attended with
  | empty =>
    intro home name
    exact ⟨⟨fun there => absurd rfl there, fun there => absurd rfl there⟩, nofun⟩
  | @run memory after now action outcome attended run h =>
    have filed := (dated_of_reached attended.reached).toFiled
    exact h.step filed (steps_action now (fun between => SameReleases between.2 memory.releases)
      (memory.cluster.objects, memory.releases) action memory outcome after rfl run)

/-! With the source on record, no operation fails for want of it. -/

/-- The failure says that the source of a chart is not known. -/
def LacksSource (failure : Failure) : Prop :=
  failure.kind = .unsupported ∨ ∃ reason, failure = .invalid "extensions.chart" reason

theorem not_lacksSource_invalid {field : String} (other : field ≠ "extensions.chart")
    (reason : String) : ¬ LacksSource (.invalid field reason) := by
  rintro (unsupported | ⟨_, same⟩)
  · cases unsupported
  · cases same
    exact other rfl

@[simp]
theorem not_lacksSource_cancelled : ¬ LacksSource .cancelled := by
  simp [LacksSource, Failure.kind]

@[simp]
theorem not_lacksSource_deploymentNotFound (id : String) : ¬ LacksSource (.deploymentNotFound id) := by
  simp [LacksSource, Failure.kind]

@[simp]
theorem not_lacksSource_releaseFailure (operation id : String) (error : ReleaseError) :
    ¬ LacksSource (releaseFailure operation id error) := by
  cases error <;> simp [releaseFailure, LacksSource, Failure.kind]

section

variable {now : Time.Instant} {objects : Objects} {store : Store} {operation id : String}

/-- A program does not fail for want of a source. -/
abbrev FindsSource {α σ : Type} (aspect : Aspect σ) (now : Time.Instant) (s : σ) (p : Program α) :
    Prop :=
  p.Ensures aspect now s fun outcome _ => ∀ failure, outcome = .error failure → ¬ LacksSource failure

private theorem findsSource_fail {α σ : Type} {aspect : Aspect σ} {s : σ} {failure : Failure}
    (spared : ¬ LacksSource failure) :
    FindsSource aspect now s (Program.done (.error failure) : Program α) := by
  refine .done ?_
  rintro _ ⟨⟩
  exact spared

private theorem cancelled_spared (failure : Failure)
    (ended : (.error .cancelled : Outcome Deployment) = .error failure) : ¬ LacksSource failure := by
  cases ended
  exact not_lacksSource_cancelled

theorem findsSource_current : FindsSource .releases now store (current operation id) := by
  have located : FindsSource .releases now store (locate operation id) := by
    refine .check (fun failure failed => ?_) fun _ _ => .connect ?_ (.releaseList ?_)
    · obtain ⟨reason, rfl⟩ := field_of_checkName failed
      rintro _ ⟨⟩
      exact not_lacksSource_invalid (by decide) reason
    · rintro _ ⟨⟩
      exact not_lacksSource_cancelled
    · simp only [Program.expect_ok, Program.done_ok_bind]
      split
      · exact findsSource_fail (not_lacksSource_deploymentNotFound id)
      · exact .done nofun
      · exact findsSource_fail (not_lacksSource_invalid (by decide) _)
  refine located.bind (fun home between _ => ?_) fun failure _ spared => ?_
  · refine .connect ?_ (.releaseStatus ?_)
    · rintro _ ⟨⟩
      exact not_lacksSource_cancelled
    · cases Store.status between home id with
      | ok revision => exact .done nofun
      | error error => exact findsSource_fail (not_lacksSource_releaseFailure operation id error)
  · rintro _ ⟨⟩
    exact spared failure rfl

theorem findsSource_upgrade {request : UpgradeRequest} {source : ChartSource} :
    FindsSource .releases now store (upgrade now operation request source) := by
  refine .connect cancelled_spared (.upgrade ?_)
  cases (store.upgrade now request).1 with
  | error error => exact findsSource_fail (not_lacksSource_releaseFailure operation _ error)
  | ok revision =>
    refine (ensures_remember revision source).bind ?_ fun _ _ ended => nomatch ended.1
    rintro ⟨⟩ _ -
    exact .done nofun

/-- The source that is asked for is there. -/
theorem findsSource_recorded (h : OnRecord objects store) (filed : store.Filed)
    {f : ReleaseRevision → Option ChartSource → Program Deployment}
    (next : ∀ revision source s, FindsSource .both now s (f revision (some source))) :
    FindsSource .both now (objects, store) (do
      let revision ← current operation id
      let source ← recordedSource operation revision.namespace id
      f revision source) := by
  refine ((ensures_current.and findsSource_current).both_of_releases
    (readOnly_current operation id)).bind ?_ ?_
  case refine_2 =>
    rintro failure _ ⟨-, -, spared⟩ _ ⟨⟩
    exact spared failure rfl
  rintro revision _ ⟨rfl, ⟨-, found⟩, -⟩
  obtain ⟨-, home, -, latest⟩ := found revision rfl
  obtain ⟨history, there, ends⟩ := Option.bind_eq_some_iff.mp latest
  obtain ⟨-, rfl⟩ := filed.own home id history there revision (List.mem_of_getLast? ends)
  refine ((ensures_recordedSource operation revision.namespace id).both_of_objects
    (readOnly_recordedSource operation revision.namespace id)).bind ?_ ?_
  · rintro source _ ⟨rfl, -, found⟩
    obtain ⟨record, stored⟩ := Option.ne_none_iff_exists'.mp
      ((h revision.namespace id).kept.mp (by rw [there]; exact Option.some_ne_none history))
    obtain ⟨source', held⟩ := ofRecord?_of_ne_empty ((h revision.namespace id).source record stored)
    obtain rfl : source = some source' := by
      rw [found source rfl, stored, Option.bind_some, held]
    exact next revision source' _
  · rintro failure _ ⟨-, cancelled, -⟩
    rw [cancelled failure rfl]
    exact cancelled_spared

/-- What is known of the releases alone. -/
private theorem findsSource_both {p : Program Deployment}
    (h : ∀ store, FindsSource .releases now store p) (s : Objects × Store) :
    FindsSource .both now s p :=
  fun memory outcome after _ run => h memory.releases memory outcome after rfl run

theorem findsSource_scaleDeployment (h : OnRecord objects store) (filed : store.Filed)
    (replicas : Int32) : FindsSource .both now (objects, store) (scaleDeployment now id replicas) := by
  refine .checkpoint cancelled_spared ?_
  refine .check (fun failure failed => ?_) fun _ _ => .check (fun failure failed => ?_) fun _ _ => ?_
  · obtain ⟨reason, rfl⟩ := field_of_checkName failed
    rintro _ ⟨⟩
    exact not_lacksSource_invalid (by decide) reason
  · unfold checkReplicas at failed
    split at failed
    · cases failed
      rintro _ ⟨⟩
      exact not_lacksSource_invalid (by decide) _
    · cases failed
  exact findsSource_recorded h filed fun _ _ =>
    findsSource_both fun _ => findsSource_upgrade

theorem findsSource_updateDeployment (h : OnRecord objects store) (filed : store.Filed)
    {update : DeploymentUpdate} (only : ValuesOnly update) :
    FindsSource .both now (objects, store) (updateDeployment now id update) := by
  refine .checkpoint cancelled_spared ?_
  rw [only.chart, only.version, only.repo]
  refine .check nofun fun _ same => .check nofun fun _ same' => .check nofun fun _ same'' => ?_
  cases same
  cases same'
  cases same''
  simp only [updatedSource, only.package, bind_assoc]
  exact findsSource_recorded h filed fun _ _ => findsSource_both fun _ => findsSource_upgrade

end

/-- As long as callers see through what they begin, a release is there just if its record is, with the
reference of a chart in it. No change of scale or values fails then because that is not known, whatever its
own caller does. -/
theorem onRecord_of_attended {memory : Memory} (attended : Attended memory) :
    (∀ home name,
      (memory.releases.history? home name ≠ none ↔
        memory.cluster.object? recordKind home (recordName name) ≠ none) ∧
      ∀ record, memory.cluster.object? recordKind home (recordName name) = some record →
        record.stringAt ["data", "chart"] ≠ "") ∧
    (∀ now id replicas failure after,
      (scaleDeployment now id replicas).Runs now memory (.error failure) after →
        failure.kind ≠ .unsupported) ∧
    ∀ now id update failure after, ValuesOnly update →
      (updateDeployment now id update).Runs now memory (.error failure) after →
        ∀ reason, failure ≠ .invalid "extensions.chart" reason := by
  have h := Attended.onRecord attended
  have filed := (dated_of_reached attended.reached).toFiled
  refine ⟨fun home name => ⟨(h home name).kept, (h home name).source⟩, ?_, ?_⟩
  · intro now id replicas failure after run unsupported
    exact findsSource_scaleDeployment h filed replicas memory _ after rfl run failure rfl
      (.inl unsupported)
  · intro now id update failure after only run reason same
    exact findsSource_updateDeployment h filed only memory _ after rfl run failure rfl
      (.inr ⟨reason, same⟩)

/-- A release is made, and scaled when the cluster has begun to refuse updates of records. -/
def scaledUnrecorded : Memory :=
  ((scaleDeployment ⟨1, 0⟩ "web" 2).runInMemory ⟨1, 0⟩ (single.rejectUpdates recordKind)).2

/-- It is still on record. -/
theorem onRecord_of_attended_rejected :
    ∃ record, scaledUnrecorded.cluster.object? recordKind "prod" (recordName "web") = some record ∧
      record.stringAt ["data", "chart"] ≠ "" ∧
      (scaledUnrecorded.releases.latest? "prod" "web").map ReleaseRevision.revision = some 2 ∧
      ∀ failure after, (scaleDeployment ⟨2, 0⟩ "web" 3).Runs ⟨2, 0⟩ scaledUnrecorded
        (.error failure) after → failure.kind ≠ .unsupported := by
  have made : Attended single :=
    .run ⟨0, 0⟩ (.createDeployment (requestIn "prod")) .empty (Program.runsWhere_runInMemory _ _)
  have attended : Attended scaledUnrecorded :=
    .run ⟨1, 0⟩ (.scaleDeployment "web" 2) made
      (.reject recordKind (Program.runsWhere_runInMemory _ _))
  obtain ⟨recorded, found, -⟩ := onRecord_of_attended attended
  have latest : (scaledUnrecorded.releases.latest? "prod" "web").map ReleaseRevision.revision =
      some 2 := rfl
  have there : scaledUnrecorded.releases.history? "prod" "web" ≠ none := by
    intro absent
    rw [Store.latest?, absent] at latest
    cases latest
  obtain ⟨record, stored⟩ := Option.ne_none_iff_exists'.mp ((recorded "prod" "web").1.mp there)
  exact ⟨record, stored, (recorded "prod" "web").2 record stored, latest, found _ _ _⟩

/-- The caller of a creation gives up between the release and its record. -/
def abandoned : Outcome Deployment × Memory :=
  (createDeployment ⟨0, 0⟩ (requestIn "prod")).runFor ⟨0, 0⟩ (fun call => call != 3) .empty

/-- The release that is made then is not on record, and cannot be scaled. -/
theorem not_onRecord_of_abandoned :
    Reached operations abandoned.2 ∧ (∃ deployment, abandoned.1 = .ok deployment) ∧
      abandoned.2.releases.history? "prod" "web" ≠ none ∧
      abandoned.2.cluster.object? recordKind "prod" (recordName "web") = none ∧
      ∃ failure, (scaleDeployment ⟨1, 0⟩ "web" 2).runInMemory ⟨1, 0⟩ abandoned.2 =
          (.error failure, abandoned.2) ∧ failure.kind = .unsupported := by
  refine ⟨.run ⟨0, 0⟩ (.createDeployment (requestIn "prod")) .empty (Program.runs_runFor _ _ _),
    ⟨_, rfl⟩, ?_, rfl, _, rfl, rfl⟩
  rw [Option.ne_none_iff_isSome]
  decide +kernel

end OnManager

end DeploymentGateway.Release
