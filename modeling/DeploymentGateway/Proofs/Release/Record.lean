import DeploymentGateway.Proofs.Cluster.Store
import DeploymentGateway.Proofs.Program
import DeploymentGateway.Release.OnManager
/-!
The records of where the charts of releases come from. To remember a source cannot fail in memory: it
renews the record of one release, and every other release keeps its own.
-/

set_option autoImplicit false

namespace DeploymentGateway.Release

open Cluster

namespace ChartSource

/-- The source in a record is read from its data alone. -/
theorem ofRecord?_congr {record record' : Json} (same : record.child? "data" = record'.child? "data") :
    ofRecord? record = ofRecord? record' := by
  simp only [ofRecord?, nonEmptyAt, Json.string?At, Json.lookup, same]

/-- What a record holds is never the empty reference. -/
theorem reference_ne_empty {record : Json} {source : ChartSource}
    (found : ofRecord? record = some source) : source.reference ≠ "" := by
  obtain ⟨reference, read, rfl⟩ := Option.map_eq_some_iff.mp found
  have nonempty := (Option.filter_eq_some_iff.mp read).2
  simpa using nonempty

/-- The source in a record has the reference that is read from it. -/
theorem reference_of_ofRecord? {record : Json} {source : ChartSource}
    (found : ofRecord? record = some source) :
    source.reference = record.stringAt ["data", "chart"] := by
  obtain ⟨reference, read, rfl⟩ := Option.map_eq_some_iff.mp found
  rw [Json.stringAt, (Option.filter_eq_some_iff.mp read).1, Option.getD_some]

/-- A record holds a source if it has a reference. -/
theorem ofRecord?_of_ne_empty {record : Json} (given : record.stringAt ["data", "chart"] ≠ "") :
    ∃ source, ofRecord? record = some source := by
  rcases read : record.string?At ["data", "chart"] with _ | reference
  · rw [Json.stringAt, read] at given
    exact absurd rfl given
  · rw [Json.stringAt, read, Option.getD_some] at given
    simp [ofRecord?, nonEmptyAt, read, Option.filter_some, given]

/-- The record of a source holds its reference. -/
theorem ofRecord?_toRecord {source : ChartSource} (given : source.reference ≠ "")
    (revision : ReleaseRevision) :
    ∃ repo, ofRecord? (source.toRecord revision) = some ⟨source.reference, repo⟩ := by
  have chart : nonEmptyAt (source.toRecord revision) ["data", "chart"] = some source.reference := by
    rcases source with ⟨reference, _ | repo⟩ <;>
      simpa [nonEmptyAt, toRecord, Json.string?At, Json.lookup, Json.string?] using given
  rw [ofRecord?, chart]
  exact ⟨_, rfl⟩

theorem nameOf_toRecord (source : ChartSource) (revision : ReleaseRevision) :
    nameOf (source.toRecord revision) = recordName revision.name := by
  simp [nameOf, toRecord, Json.stringAt, Json.string?At, Json.lookup, Json.string?]

theorem recordName_ne_empty (release : String) : recordName release ≠ "" := by
  intro empty
  have absent := (String.append_eq_empty_iff.mp empty).1
  exact absurd absent (by decide)

theorem recordName_injective {release other : String}
    (same : recordName release = recordName other) : release = other :=
  (String.append_right_inj _).mp same

end ChartSource

open ChartSource

/-- What a record says is the source of a chart, and the package and version of a revision. -/
structure Describes (record : Json) (source : ChartSource) (revision : ReleaseRevision) : Prop where
  label : (labelsOf record).get? packageLabel = some (packageId revision)
  chart : record.stringAt ["data", "chart"] = source.reference
  version : record.stringAt ["data", "version"] = revision.chartVersion

theorem describes_toRecord (source : ChartSource) (revision : ReleaseRevision) :
    Describes (source.toRecord revision) source revision where
  label := by
    have manager : "app.kubernetes.io/managed-by" < packageLabel := by decide
    have instance_manager : instanceLabel < "app.kubernetes.io/managed-by" := by decide
    have fields : Fields.ofPairs [("app.kubernetes.io/managed-by", Json.string "wide-deploy-api"),
        (packageLabel, .string (packageId revision)), (instanceLabel, .string revision.name)] =
        [(instanceLabel, .string revision.name),
          ("app.kubernetes.io/managed-by", .string "wide-deploy-api"),
          (packageLabel, .string (packageId revision))] := by
      simp [Fields.ofPairs, Fields.insert, manager.ne, not_lt.mpr manager.le, instance_manager,
        instance_manager.ne']
    simp [labelsOf, textsAt, toRecord, Json.lookup, Json.object?]
    rw [Json.ofPairs, fields]
    exact SortedMap.get?_insert_self _ _ _
  chart := by
    rcases source with ⟨reference, _ | repo⟩ <;>
      simp [toRecord, Json.stringAt, Json.string?At, Json.lookup, Json.string?]
  version := by
    rcases source with ⟨reference, _ | repo⟩ <;>
      simp [toRecord, Json.stringAt, Json.string?At, Json.lookup, Json.string?]

/-- Where a record says what it does. -/
def describingPaths : List Json.Path :=
  [["metadata", "labels"], ["data", "chart"], ["data", "version"]]

/-- A write away from these places is not seen in what a record says. -/
theorem Describes.set {record : Json} {source : ChartSource} {revision : ReleaseRevision}
    (h : Describes record source revision) {place : Json.Path}
    (away : ∀ path ∈ describingPaths, Json.Path.Diverges place path) (new : Json) :
    Describes (record.set new place) source revision where
  label := by rw [labelsOf_set_of_diverges (away _ (by simp [describingPaths])), h.label]
  chart := by
    rw [Json.stringAt_set_of_names (away _ (by simp [describingPaths])) (by decide)]
    exact h.chart
  version := by
    rw [Json.stringAt_set_of_names (away _ (by simp [describingPaths])) (by decide)]
    exact h.version

/-- What the cluster makes of a new record says what the record does. -/
theorem Describes.created {record : Json} {source : ChartSource} {revision : ReleaseRevision}
    (h : Describes record source revision) (cluster : Cluster.Store) (now : Time.Instant)
    (home : String) :
    Describes (cluster.written (Store.admitted now recordKind home record)) source revision := by
  have namespaced : recordKind.namespaced = true := rfl
  rw [Store.written, Store.admitted, if_pos namespaced]
  iterate 6 refine Describes.set ?_ (by simp [describingPaths]) _
  exact h

/-- And so does what it makes of one that replaces another. -/
theorem Describes.replaced {record : Json} {source : ChartSource} {revision : ReleaseRevision}
    (h : Describes record source revision) (cluster : Cluster.Store) (current version : Json) :
    Describes (cluster.written (Store.succeeding current (record.set version versionPath))) source
      revision := by
  rw [Store.written, Store.succeeding]
  iterate 3 refine Describes.set ?_ (by simp [describingPaths]) _
  exact h

/-- The source that is on record for a release. -/
def recorded? (cluster : Cluster.Store) (home name : String) : Option ChartSource :=
  (cluster.object? recordKind home (recordName name)).bind ofRecord?

theorem recorded?_of_object? {cluster : Cluster.Store} {home name : String} {record : Json}
    (found : cluster.object? recordKind home (recordName name) = some record) :
    recorded? cluster home name = ofRecord? record := by
  rw [recorded?, found, Option.bind_some]

/-- No source is on record with the empty reference. -/
theorem reference_ne_empty_of_recorded? {cluster : Cluster.Store} {home name : String}
    {source : ChartSource} (held : recorded? cluster home name = some source) :
    source.reference ≠ "" := by
  obtain ⟨record, -, read⟩ := Option.bind_eq_some_iff.mp held
  exact reference_ne_empty read

/-- The places of the records of two releases differ. -/
theorem recordKey_ne {home name home' name' : String}
    (ne : ¬ (home' = home ∧ name' = name)) :
    Store.key recordKind home' (recordName name') ≠ Store.key recordKind home (recordName name) := by
  intro same
  have homes : home' = home := congrArg ObjectKey.namespace same
  have names : recordName name' = recordName name := congrArg ObjectKey.name same
  exact ne ⟨homes, recordName_injective names⟩

/-- The record of one release was renewed, with some reference of a chart. -/
structure Renewed (before after : Memory) (home name reference : String) : Prop where
  releases : after.releases = before.releases
  accepts : after.cluster.rejectedUpdates = before.cluster.rejectedUpdates
  source : ∃ source, recorded? after.cluster home name = some source ∧ source.reference = reference
  others : ∀ home' name', ¬ (home' = home ∧ name' = name) →
    recorded? after.cluster home' name' = recorded? before.cluster home' name'

private theorem renewed_of_write {memory : Memory} {home name : String} {source : ChartSource}
    {object : Json} (revision : ReleaseRevision) (given : source.reference ≠ "")
    (data : (memory.cluster.written object).child? "data" =
      (source.toRecord revision).child? "data") :
    Renewed memory
      ⟨(memory.cluster.write (Store.key recordKind home (recordName name)) object).2,
        memory.releases⟩ home name source.reference where
  releases := rfl
  accepts := rfl
  source := by
    obtain ⟨repo, held⟩ := ofRecord?_toRecord given revision
    refine ⟨⟨source.reference, repo⟩, ?_, rfl⟩
    rw [recorded?_of_object? (Store.object?_write_self _ _ _ _), ← held]
    exact ofRecord?_congr data
  others := by
    intro home' name' ne
    rw [recorded?, recorded?, Store.object?_write_of_ne _ _ _ (recordKey_ne ne)]

namespace OnManager

variable {now : Time.Instant} {memory : Memory} {revision : ReleaseRevision} {source : ChartSource}

/-- The record of a release is written, whether there is one already or not. -/
theorem writeSource_ends (accepts : memory.cluster.rejectedUpdates = [])
    (given : source.reference ≠ "") :
    (writeSource revision source).Ends now memory
      (fun _ after => Renewed memory after revision.namespace revision.name source.reference)
      (fun _ => False) := by
  have named := nameOf_toRecord source revision
  rcases found : memory.cluster.object? recordKind revision.namespace (recordName revision.name)
    with _ | existing
  · have created := memory.cluster.create_of_absent now recordKind revision.namespace named
      (recordName_ne_empty _) found
    simp [writeSource, Store.get, found, created]
    exact renewed_of_write revision given (by simp [Store.admitted, Store.written, recordKind, toRecord])
  · have current : nameOf ((source.toRecord revision).set
        (.string (existing.stringAt versionPath)) versionPath) = recordName revision.name :=
      nameOf_set named (recordName_ne_empty _) (by simp) _
    have updated := memory.cluster.update_of_current recordKind revision.namespace current
      (by simp [accepts]) found (Or.inr (Json.stringAt_set_self _ _ _))
    simp [writeSource, Store.get, found, updated]
    exact renewed_of_write revision given (by simp [Store.succeeding, Store.written, toRecord])

/-- A source is remembered whenever it has a reference. -/
theorem remember_ends (accepts : memory.cluster.rejectedUpdates = [])
    (given : source.reference ≠ "") :
    (remember revision source).Ends now memory
      (fun _ after => Renewed memory after revision.namespace revision.name source.reference)
      (fun _ => False) := by
  refine (writeSource_ends accepts given).attempt.bind ?_ (fun _ => id)
  rintro outcome after ⟨-, -, renewed⟩
  exact renewed

/-- To remember a source never fails and leaves the releases as they are. -/
theorem remember_keeps_releases :
    (remember revision source).Ends now memory (fun _ after => after.releases = memory.releases)
      fun _ => False := by
  have written : (writeSource revision source).Ends now memory
      (fun _ after => after.releases = memory.releases)
      (fun after => after.releases = memory.releases) := by
    -- Whatever the cluster replies, only the cluster has been asked.
    have replied (reply : Except ClusterError Json) (failure : ClusterError → Failure)
        (cluster : Cluster.Store) : (Program.expect reply failure >>= fun _ =>
          Program.done (.ok ())).Ends now ⟨cluster, memory.releases⟩
        (fun _ after => after.releases = memory.releases)
        (fun after => after.releases = memory.releases) := by
      cases reply <;> simp
    rcases found : memory.cluster.object? recordKind revision.namespace (recordName revision.name)
      with _ | existing
    · simpa [writeSource, Store.get, found] using replied _ _ _
    · simpa [writeSource, Store.get, found] using replied _ _ _
  rw [remember, Program.Ends, Program.runInMemory_bind, Program.runInMemory_attempt]
  exact written.always

/-- Reading the record of a release finds what is on record and changes nothing. -/
theorem recordedSource_ends (operation home id : String) :
    (recordedSource operation home id).Ends now memory
      (fun found after => found = recorded? memory.cluster home id ∧ after = memory)
      (fun _ => False) := by
  rcases held : memory.cluster.object? recordKind home (recordName id) with _ | record
  · simp [recordedSource, Store.get, held, recorded?]
  · simp [recordedSource, Store.get, held, recorded?]

/-- The record of one release is removed, and no other. -/
theorem forgetSource_ends (home id : String) :
    (forgetSource home id).Ends now memory
      (fun _ after => after.releases = memory.releases ∧
        after.cluster.rejectedUpdates = memory.cluster.rejectedUpdates ∧
        ∀ home' name', ¬ (home' = home ∧ name' = id) →
          recorded? after.cluster home' name' = recorded? memory.cluster home' name')
      (fun _ => False) := by
  rcases held : memory.cluster.object? recordKind home (recordName id) with _ | record
  · have deleted := memory.cluster.delete_of_absent recordKind home held
    simp [forgetSource, Program.attempt, deleted]
  · have deleted := memory.cluster.delete_of_present recordKind home (by rw [held]; rfl)
    simp [forgetSource, Program.attempt, deleted]
    intro home' name' ne
    rw [recorded?, recorded?, Store.object?, Store.object?,
      SortedMap.get?_erase_of_ne _ (recordKey_ne (not_and.mpr ne))]

end OnManager

end DeploymentGateway.Release
