import DeploymentGateway.Proofs.Json.Reading
import DeploymentGateway.Proofs.Time.Lenient
/-!
The records of the gateway come back from their wire form: what is written of a record is read as that record,
absent and present options, empty and filled maps, values of any kind and the extremes of integers alike.
Times have to lie in the years that are written with four digits.
-/

set_option autoImplicit false

namespace DeploymentGateway

open Json Reader Record

/-- The values of a map have the fields of their objects in order. -/
def Extensions.Ordered (values : Extensions) : Prop :=
  ∀ entry ∈ values.toList, entry.2.Ordered

private theorem reads_labels (labels : Labels) : Labels.reader.Reads labels.toJson labels :=
  reads_map fun entry _ => reads_text entry.2

private theorem reads_extensions {values : Extensions} (ordered : values.Ordered) :
    Extensions.reader.Reads values.toJson values := by
  have read : (Reader.map Reader.json).Reads (.object (values.toList.map fun entry => (entry.1, id entry.2))) values :=
    reads_map fun entry mem => reads_json (ordered entry mem)
  rwa [show (fun entry : String × Json => (entry.1, id entry.2)) = id from rfl, List.map_id] at read

private theorem reads_instant {t : Time.Instant} (ordinary : t.Ordinary) : Time.Instant.reader.Reads t.toJson t :=
  (reads_text t.text).convert (Time.readLenient?_text ordinary)

private theorem reads_instant? {t? : Option Time.Instant} (ordinary : ∀ t ∈ t?, t.Ordinary) :
    (nullable Time.Instant.reader).Reads (ofOption Time.Instant.toJson t?) t? :=
  reads_nullable (fun t mem => reads_instant (ordinary t mem)) fun _ _ => nofun

private theorem reads_status (status : DeploymentStatus) : DeploymentStatus.reader.Reads status.toJson status :=
  reads_word (by cases status <;> rfl)

private theorem reads_status? (status? : Option DeploymentStatus) :
    (nullable DeploymentStatus.reader).Reads (ofOption DeploymentStatus.toJson status?) status? :=
  reads_nullable (fun status _ => reads_status status) fun _ _ => nofun

private theorem reads_packageType (type : PackageType) : PackageType.reader.Reads type.toJson type :=
  reads_word (by cases type <;> rfl)

private theorem reads_text? (s? : Option String) : (nullable text).Reads (ofText? s?) s? := by
  have read : (nullable text).Reads (ofOption Json.string s?) s? :=
    reads_nullable (fun s _ => reads_text s) fun _ _ => nofun
  cases s? <;> exact read

theorem Deployment.reads {d : Deployment} (created : d.createdAt.Ordinary) (updated : d.updatedAt.Ordinary)
    (extensions : d.extensions.Ordered) : Deployment.record.reader.Reads d.toJson d := by
  have given := (gives_required "id" (reads_text d.id)).map Deployment.mk
    |>.seq (gives_required "name" (reads_text d.name))
    |>.seq (gives_required "package_id" (reads_text d.packageId))
    |>.seq (gives_required "namespace" (reads_text d.namespace))
    |>.seq (gives_required "status" (reads_status d.status))
    |>.seq (gives_required "version" (reads_int64 d.version))
    |>.seq (gives_required "description" (reads_text d.description))
    |>.seq (gives_required "created_at" (reads_instant created))
    |>.seq (gives_required "updated_at" (reads_instant updated))
    |>.seq (gives_withDefault "labels" .empty (reads_labels d.labels))
    |>.seq (gives_withDefault "extensions" .empty (reads_extensions extensions))
  exact given.reads (by simp)

theorem DeploymentRequest.reads {r : DeploymentRequest} (values : r.values.Ordered)
    (extensions : r.extensions.Ordered) : DeploymentRequest.record.reader.Reads r.toJson r := by
  have given := (gives_required "name" (reads_text r.name)).map DeploymentRequest.mk
    |>.seq (gives_required "namespace" (reads_text r.namespace))
    |>.seq (gives_optionalAnywhere "package_id" (reads_text? r.packageId))
    |>.seq (gives_withDefault "values" .empty (reads_extensions values))
    |>.seq (gives_withDefault "labels" .empty (reads_labels r.labels))
    |>.seq (gives_withDefault "extensions" .empty (reads_extensions extensions))
  exact given.reads (by simp)

theorem DeploymentUpdate.reads {u : DeploymentUpdate} (values : u.values.Ordered)
    (extensions : u.extensions.Ordered) : DeploymentUpdate.record.reader.Reads u.toJson u := by
  have given := (gives_optionalAnywhere "package_id" (reads_text? u.packageId)).map DeploymentUpdate.mk
    |>.seq (gives_withDefault "values" .empty (reads_extensions values))
    |>.seq (gives_withDefault "labels" .empty (reads_labels u.labels))
    |>.seq (gives_withDefault "extensions" .empty (reads_extensions extensions))
  exact given.reads (by simp)

theorem Condition.reads {c : Condition} (transition : ∀ t ∈ c.lastTransition, t.Ordinary) :
    Condition.record.reader.Reads c.toJson c := by
  have given := (gives_required "type" (reads_text c.type)).map Condition.mk
    |>.seq (gives_required "status" (reads_text c.status))
    |>.seq (gives_withDefault "reason" "" (reads_text c.reason))
    |>.seq (gives_withDefault "message" "" (reads_text c.message))
    |>.seq (gives_optional "last_transition_time" (reads_instant? transition))
  exact given.reads (by simp)

theorem StatusDetail.reads {d : StatusDetail} (updated : d.updatedAt.Ordinary)
    (transitions : ∀ c ∈ d.conditions, ∀ t ∈ c.lastTransition, t.Ordinary)
    (extensions : d.extensions.Ordered) : StatusDetail.record.reader.Reads d.toJson d := by
  have given := (gives_required "id" (reads_text d.id)).map StatusDetail.mk
    |>.seq (gives_required "status" (reads_status d.status))
    |>.seq (gives_required "message" (reads_text d.message))
    |>.seq (gives_required "progress" (reads_uint8 d.progress))
    |>.seq (gives_required "conditions" (reads_list fun c mem => Condition.reads (transitions c mem)))
    |>.seq (gives_required "updated_at" (reads_instant updated))
    |>.seq (gives_withDefault "extensions" .empty (reads_extensions extensions))
  exact given.reads (by simp)

theorem Revision.reads {r : Revision} (deployed : r.deployedAt.Ordinary) :
    Revision.record.reader.Reads r.toJson r := by
  have given := (gives_required "revision" (reads_int64 r.revision)).map Revision.mk
    |>.seq (gives_required "version" (reads_text r.version))
    |>.seq (gives_required "deployed_at" (reads_instant deployed))
    |>.seq (gives_required "status" (reads_status r.status))
    |>.seq (gives_required "description" (reads_text r.description))
  exact given.reads (by simp)

theorem History.reads {h : History} (deployed : ∀ r ∈ h.revisions, r.deployedAt.Ordinary) :
    History.record.reader.Reads h.toJson h := by
  have given := (gives_required "deployment_id" (reads_text h.deploymentId)).map History.mk
    |>.seq (gives_required "revisions" (reads_list fun r mem => Revision.reads (deployed r mem)))
  exact given.reads (by simp)

theorem LogOptions.reads (o : LogOptions) : LogOptions.record.reader.Reads o.toJson o := by
  have tail : (nullable int64).Reads (ofOption (fun n => .ofInt n.toInt) o.tailLines) o.tailLines :=
    reads_nullable (fun n _ => reads_int64 n) fun _ _ => nofun
  have given := (gives_optional "tail_lines" tail).map LogOptions.mk
    |>.seq (gives_optional "container" (reads_text? o.container))
  exact given.reads (by simp)

theorem LogEntry.reads (e : LogEntry) : LogEntry.record.reader.Reads e.toJson e := by
  have given := (gives_required "pod" (reads_text e.pod)).map LogEntry.mk
    |>.seq (gives_optional "container" (reads_text? e.container))
    |>.seq (gives_required "lines" (reads_list fun line (_ : line ∈ e.lines) => reads_text line))
  exact given.reads (by simp)

theorem DeploymentLogs.reads (l : DeploymentLogs) : DeploymentLogs.record.reader.Reads l.toJson l := by
  have given := (gives_required "deployment_id" (reads_text l.deploymentId)).map DeploymentLogs.mk
    |>.seq (gives_required "entries" (reads_list fun e (_ : e ∈ l.entries) => e.reads))
  exact given.reads (by simp)

theorem Package.reads {p : Package} (uploaded : p.uploadedAt.Ordinary) (extensions : p.extensions.Ordered) :
    Package.record.reader.Reads p.toJson p := by
  have given := (gives_required "id" (reads_text p.id)).map Package.mk
    |>.seq (gives_required "name" (reads_text p.name))
    |>.seq (gives_required "version" (reads_text p.version))
    |>.seq (gives_required "package_type" (reads_packageType p.type))
    |>.seq (gives_required "description" (reads_text p.description))
    |>.seq (gives_required "uploaded_at" (reads_instant uploaded))
    |>.seq (gives_withDefault "extensions" .empty (reads_extensions extensions))
  exact given.reads (by simp)

theorem PackageUpload.reads {u : PackageUpload} (extensions : u.extensions.Ordered) :
    PackageUpload.record.reader.Reads u.toJson u := by
  have given := (gives_required "name" (reads_text u.name)).map PackageUpload.mk
    |>.seq (gives_required "reference" (reads_text u.reference))
    |>.seq (gives_optionalAnywhere "version" (reads_text? u.version))
    |>.seq (gives_withDefault "extensions" .empty (reads_extensions extensions))
  exact given.reads (by simp)

theorem Filter.reads {f : Filter} (extensions : f.extensions.Ordered) :
    Filter.record.reader.Reads f.toJson f := by
  have given := (gives_optionalAnywhere "namespace" (reads_text? f.namespace)).map Filter.mk
    |>.seq (gives_optionalAnywhere "status" (reads_status? f.status))
    |>.seq (gives_withDefault "labels" .empty (reads_labels f.labels))
    |>.seq (gives_withDefault "extensions" .empty (reads_extensions extensions))
    |>.seq (gives_withDefault "limit" 0 (reads_uint64 f.limit))
    |>.seq (gives_withDefault "offset" 0 (reads_uint64 f.offset))
  exact given.reads (by simp)

/-- Every record is what is read from what is written of it. -/
structure SurvivesWire : Prop where
  deployment : ∀ d : Deployment, d.createdAt.Ordinary → d.updatedAt.Ordinary → d.extensions.Ordered →
    Deployment.record.reader.run d.toJson = .ok d
  package : ∀ p : Package, p.uploadedAt.Ordinary → p.extensions.Ordered →
    Package.record.reader.run p.toJson = .ok p
  request : ∀ r : DeploymentRequest, r.values.Ordered → r.extensions.Ordered →
    DeploymentRequest.record.reader.run r.toJson = .ok r
  update : ∀ u : DeploymentUpdate, u.values.Ordered → u.extensions.Ordered →
    DeploymentUpdate.record.reader.run u.toJson = .ok u
  status : ∀ d : StatusDetail, d.updatedAt.Ordinary →
    (∀ c ∈ d.conditions, ∀ t ∈ c.lastTransition, t.Ordinary) → d.extensions.Ordered →
    StatusDetail.record.reader.run d.toJson = .ok d
  history : ∀ h : History, (∀ r ∈ h.revisions, r.deployedAt.Ordinary) →
    History.record.reader.run h.toJson = .ok h
  logOptions : ∀ o : LogOptions, LogOptions.record.reader.run o.toJson = .ok o
  logs : ∀ l : DeploymentLogs, DeploymentLogs.record.reader.run l.toJson = .ok l
  upload : ∀ u : PackageUpload, u.extensions.Ordered → PackageUpload.record.reader.run u.toJson = .ok u
  filter : ∀ f : Filter, f.extensions.Ordered → Filter.record.reader.run f.toJson = .ok f

theorem survivesWire : SurvivesWire where
  deployment _ created updated extensions := (Deployment.reads created updated extensions).run
  package _ uploaded extensions := (Package.reads uploaded extensions).run
  request _ values extensions := (DeploymentRequest.reads values extensions).run
  update _ values extensions := (DeploymentUpdate.reads values extensions).run
  status _ updated transitions extensions := (StatusDetail.reads updated transitions extensions).run
  history _ deployed := (History.reads deployed).run
  logOptions o := o.reads.run
  logs l := l.reads.run
  upload _ extensions := (PackageUpload.reads extensions).run
  filter _ extensions := (Filter.reads extensions).run

/-- A leap second of half its length before 1970, the second before the year 10000, the greatest progress and a
nested value come back. -/
theorem survivesWire_leap :
    let detail : StatusDetail := {
      id := "web", status := .failed, message := "", progress := 255
      conditions := [
        ⟨"Ready", "False", "", "", none⟩,
        ⟨"Synced", "True", "", "", some ⟨253402300799, 999000000⟩⟩]
      updatedAt := ⟨-1, 1500000000⟩
      extensions := .ofList [("chart", .array [.null, .object [("major", .ofInt 1), ("minor", .array [])]])] }
    detail.updatedAt.text = "1969-12-31T23:59:60.500Z" ∧
      StatusDetail.record.reader.run detail.toJson = .ok detail := by
  intro detail
  have updated : detail.updatedAt.Ordinary := ⟨by decide, .inr (by decide)⟩
  have transitions : ∀ c ∈ detail.conditions, ∀ t ∈ c.lastTransition, t.Ordinary := by
    have last : Time.Instant.Ordinary ⟨253402300799, 999000000⟩ := ⟨by decide, .inl (by decide)⟩
    simpa [detail] using last
  have extensions : detail.extensions.Ordered := by
    have nested : (Json.object [("major", .ofInt 1), ("minor", .array [])]).Ordered := by
      refine .object (List.pairwise_pair.mpr (by decide)) (List.forall_mem_cons.mpr ⟨.number _, ?_⟩)
      exact List.forall_mem_singleton.mpr (.array (List.forall_mem_nil _))
    refine List.forall_mem_singleton.mpr (.array (List.forall_mem_cons.mpr ⟨.null, ?_⟩))
    exact List.forall_mem_singleton.mpr nested
  exact ⟨by decide, survivesWire.status detail updated transitions extensions⟩

end DeploymentGateway
