import DeploymentGateway.Proofs.Program.Where
import DeploymentGateway.Proofs.Release.Record
import DeploymentGateway.Proofs.Release.Run
import DeploymentGateway.Proofs.Rules
/-!
What an operation on releases can do to them and to the records in the cluster. It makes or removes one
revision or release at most, and after that it keeps the record of that release; this second step may be
left out when the caller gives up in between, or when the cluster refuses to update the record there is.
-/

set_option autoImplicit false

namespace DeploymentGateway.Release

open Cluster Rules ChartSource

/-- Where the record of a release is kept. -/
abbrev recordKey (home name : String) : ObjectKey :=
  Store.key recordKind home (recordName name)

/-- The objects after the source of a revision was to be remembered. Nothing is written if the caller gave
up, and it may be that a record which is there is not replaced. -/
inductive Remembers (gaveUp : Prop) (objects : Objects) (revision : ReleaseRevision)
    (source : ChartSource) : Objects → Prop where
  | lapsed : gaveUp ∨ objects.get? (recordKey revision.namespace revision.name) ≠ none →
    Remembers gaveUp objects revision source objects
  | written {record : Json} : Describes record source revision →
    Remembers gaveUp objects revision source
      (objects.insert (recordKey revision.namespace revision.name) record)

/-- What an operation can do whose caller gives up only in some states, and which returns none but some
releases to an earlier revision. -/
inductive Step (mayGiveUp : Objects × Store → Prop) (returns : String → Prop) (now : Time.Instant) :
    Objects × Store → Objects × Store → Prop where
  | unchanged (s : Objects × Store) : Step mayGiveUp returns now s s
  | installed {objects after : Objects} {store : Store} {request : InstallRequest}
    {source : ChartSource} (given : source.reference ≠ "") (chart : request.chart = source.reference)
    (free : store.latest? request.namespace request.name = none)
    (remembers : Remembers (mayGiveUp (objects, (store.push (Store.installed now request)).2)) objects
      (store.push (Store.installed now request)).1 source after) :
    Step mayGiveUp returns now (objects, store)
      (after, (store.push (Store.installed now request)).2)
  | upgraded {objects after : Objects} {store : Store} {request : UpgradeRequest}
    {current : ReleaseRevision} {source : ChartSource} (given : source.reference ≠ "")
    (chart : request.chart = source.reference)
    (latest : store.latest? request.namespace request.name = some current)
    (remembers : Remembers (mayGiveUp (objects, (store.push (Store.upgraded now current request)).2))
      objects (store.push (Store.upgraded now current request)).1 source after) :
    Step mayGiveUp returns now (objects, store)
      (after, (store.push (Store.upgraded now current request)).2)
  | repeated {objects after : Objects} {store : Store} {home id : String} {number : Int64}
    {target restored : ReleaseRevision} (asked : returns id)
    (mem : target ∈ (store.history? home id).getD [])
    (latest : (store.push (Store.repeated target number)).2.latest? home id = some restored)
    (remembers : after = objects ∨ ∃ record source, objects.get? (recordKey home id) = some record ∧
      ofRecord? record = some source ∧
      Remembers (mayGiveUp (objects, (store.push (Store.repeated target number)).2)) objects restored
        source after) :
    Step mayGiveUp returns now (objects, store)
      (after, (store.push (Store.repeated target number)).2)
  | uninstalled {objects after : Objects} {store : Store} {home id : String}
    (found : store.history? home id ≠ none)
    (forgets : after = objects.erase (recordKey home id) ∨
      after = objects ∧ mayGiveUp (objects, ⟨store.releases.erase ⟨home, id⟩⟩)) :
    Step mayGiveUp returns now (objects, store) (after, ⟨store.releases.erase ⟨home, id⟩⟩)

/-! The calls to the manager leave the objects. -/

section

variable {α : Type} {now : Time.Instant} {mayGiveUp : Objects × Store → Prop} {objects : Objects}
  {store : Store} {post : Outcome α → Objects × Store → Prop} {home name : String}

theorem where_install {request : InstallRequest}
    {f : Except ReleaseError ReleaseRevision → Program α}
    (h : (f (store.install now request).1).EnsuresWhere .both now mayGiveUp
      (objects, (store.install now request).2) post) :
    (Program.install request >>= f).EnsuresWhere .both now mayGiveUp (objects, store) post := by
  refine .call ?_
  rintro ⟨cluster, releases⟩ waits same -
  cases same
  exact h

theorem where_upgrade {request : UpgradeRequest}
    {f : Except ReleaseError ReleaseRevision → Program α}
    (h : (f (store.upgrade now request).1).EnsuresWhere .both now mayGiveUp
      (objects, (store.upgrade now request).2) post) :
    (Program.upgrade request >>= f).EnsuresWhere .both now mayGiveUp (objects, store) post := by
  refine .call ?_
  rintro ⟨cluster, releases⟩ waits same -
  cases same
  exact h

theorem where_uninstall {f : Except ReleaseError Unit → Program α}
    (h : (f (store.uninstall home name).1).EnsuresWhere .both now mayGiveUp
      (objects, (store.uninstall home name).2) post) :
    (Program.uninstall home name >>= f).EnsuresWhere .both now mayGiveUp (objects, store) post := by
  refine .call ?_
  rintro ⟨cluster, releases⟩ waits same -
  cases same
  exact h

theorem where_rollback {revision : Int64} {f : Except ReleaseError Unit → Program α}
    (h : (f (store.rollback home name revision).1).EnsuresWhere .both now mayGiveUp
      (objects, (store.rollback home name revision).2) post) :
    (Program.rollback home name revision >>= f).EnsuresWhere .both now mayGiveUp (objects, store)
      post := by
  refine .call ?_
  rintro ⟨cluster, releases⟩ waits same -
  cases same
  exact h

theorem where_releaseStatus {f : Except ReleaseError ReleaseRevision → Program α}
    (h : (f (store.status home name)).EnsuresWhere .both now mayGiveUp (objects, store) post) :
    (Program.releaseStatus home name >>= f).EnsuresWhere .both now mayGiveUp (objects, store) post := by
  refine .call ?_
  rintro ⟨cluster, releases⟩ waits same -
  cases same
  exact h

end

namespace OnManager

variable {now : Time.Instant} {mayGiveUp : Objects × Store → Prop} {objects : Objects} {store : Store}

/-- To remember a source never fails and leaves the releases. -/
theorem remember_where (revision : ReleaseRevision) (source : ChartSource) :
    (remember revision source).EnsuresWhere .both now mayGiveUp (objects, store) fun outcome after =>
      outcome = .ok () ∧ ∃ objects', after = (objects', store) ∧
        Remembers (mayGiveUp (objects, store)) objects revision source objects' := by
  have named := nameOf_toRecord source revision
  have described := describes_toRecord source revision
  refine .connect (fun gaveUp => .done ⟨rfl, objects, rfl, .lapsed (.inl gaveUp)⟩) ?_
  refine .call ?_
  rintro ⟨cluster, releases⟩ waits same -
  cases same
  rcases found : cluster.object? recordKind revision.namespace (recordName revision.name)
    with _ | existing
  · simp only [Memory.answerTo_get, Memory.answer, Store.get, found]
    refine .call ?_
    rintro ⟨cluster', releases⟩ waits same -
    obtain ⟨objects, releases⟩ := Prod.mk.inj same
    dsimp only at objects releases
    subst releases
    have absent : cluster'.object? recordKind revision.namespace (recordName revision.name) = none := by
      rw [Store.object?, objects]
      exact found
    have created := cluster'.create_of_absent now recordKind revision.namespace named
      (recordName_ne_empty _) absent
    simp only [Memory.answerTo_create, Memory.answer, Memory.withCluster, created]
    rw [← objects]
    refine .done ⟨rfl, _, rfl, ?_⟩
    exact .written (described.created cluster' now revision.namespace)
  · have present : cluster.objects.get? (recordKey revision.namespace revision.name) ≠ none := by
      rw [Store.object?] at found
      rw [found]
      exact Option.some_ne_none existing
    simp only [Memory.answerTo_get, Memory.answer, Store.get, found]
    refine .call ?_
    rintro ⟨cluster', releases⟩ waits same -
    obtain ⟨objects, releases⟩ := Prod.mk.inj same
    dsimp only at objects releases
    subst releases
    simp only [Memory.answerTo_update, Memory.answer, Memory.withCluster]
    rcases cluster'.update_cases recordKind revision.namespace
        ((source.toRecord revision).set (.string (existing.stringAt versionPath)) versionPath) with
      ⟨error, run⟩ | ⟨current, stored, _, _, run⟩
    · rw [run]
      exact .done ⟨rfl, _, Prod.ext objects rfl, .lapsed (.inr present)⟩
    · rw [run, nameOf_set named (recordName_ne_empty _) (by simp)]
      rw [← objects]
      exact .done ⟨rfl, _, rfl, .written (described.replaced cluster' current _)⟩

/-- To forget a source never fails and leaves the releases. -/
theorem forgetSource_where (home id : String) :
    (forgetSource home id).EnsuresWhere .both now mayGiveUp (objects, store) fun outcome after =>
      outcome = .ok () ∧ ∃ objects', after = (objects', store) ∧
        (objects' = objects.erase (recordKey home id) ∨
          objects' = objects ∧ mayGiveUp (objects, store)) := by
  refine .connect (fun gaveUp => .done ⟨rfl, objects, rfl, .inr ⟨rfl, gaveUp⟩⟩) ?_
  refine .call ?_
  rintro ⟨cluster, releases⟩ waits same -
  cases same
  simp only [Memory.answerTo_delete, Memory.answer, Memory.withCluster]
  rcases found : cluster.object? recordKind home (recordName id) with _ | record
  · rw [Store.delete_of_absent _ _ _ found]
    refine .done ⟨rfl, _, rfl, .inl ?_⟩
    exact (SortedMap.erase_of_get?_eq_none found).symm
  · rw [Store.delete_of_present _ _ _ (by rw [found]; rfl)]
    exact .done ⟨rfl, _, rfl, .inl rfl⟩

/-! The sources of charts that operations start from. -/

/-- The record that a package id leads to: of those that its selector lists, the first with a source. -/
def recordOf? (objects : Objects) (package : String) : Option Json :=
  (Cluster.Store.list { Cluster.Store.empty with objects } recordKind none
    (some (packageLabel ++ "=" ++ package))).find? fun record => (ofRecord? record).isSome

/-- A package id stands for what the record says that it leads to. -/
theorem ensures_chartOf (package : String) :
    (chartOf package).Ensures .objects now objects fun outcome _ => ∀ found, outcome = .ok found →
      ∃ record, recordOf? objects package = some record ∧ ofRecord? record = some found.1 ∧
        found.2 = record.stringAt ["data", "version"] := by
  refine .connect nofun (.list ?_)
  simp only [Program.expect_ok, Program.done_ok_bind]
  rcases listed : (Cluster.Store.list { Cluster.Store.empty with objects } recordKind none
      (some (packageLabel ++ "=" ++ package))).filterMap (fun record =>
        (ofRecord? record).map fun source => (source, record.stringAt ["data", "version"]))
    with _ | ⟨found, others⟩
  · refine (readOnly_installed.ensures _).bind ?_ ?_
    · rintro revisions _ -
      split <;> refine .done ?_ <;> rintro _ ⟨⟩
    · rintro _ _ _ _ ⟨⟩
  · obtain ⟨before, record, behind, split, none_before, here, -⟩ := List.filterMap_eq_cons_iff.mp listed
    obtain ⟨source, held, rfl⟩ := Option.map_eq_some_iff.mp here
    refine .done ?_
    rintro _ ⟨⟩
    refine ⟨record, List.find?_eq_some_iff_append.mpr ⟨?_, before, behind, split, ?_⟩, held, rfl⟩
    · rw [held]
      rfl
    · intro earlier mem
      simpa using none_before earlier mem

/-- A request that names no chart has to name a package, and asks for what the record says that this leads
to. -/
theorem ensures_requestedSource (request : DeploymentRequest) (version repo : Option String) :
    (requestedSource request version repo).Ensures .objects now objects fun outcome _ =>
      ∀ found, outcome = .ok found → found.1.reference ≠ "" ∧
        (optionalText request.extensions "chart" = .ok none → ∃ package record,
          namedPackage request.packageId = some package ∧ recordOf? objects package = some record ∧
            found.1.reference = record.stringAt ["data", "chart"] ∧
            found.2 = some (version.getD (record.stringAt ["data", "version"]))) := by
  refine .check (fun _ _ => nofun) fun chart named => ?_
  split
  · rename_i package asked
    refine ((ensures_chartOf package).bind ?_ fun _ _ _ => nofun)
    rintro ⟨source, recorded⟩ after found
    obtain ⟨record, first, held, rfl⟩ := found _ rfl
    refine .done ?_
    rintro _ ⟨⟩
    have given : source.reference ≠ "" := reference_ne_empty held
    have reference : source.reference = _ := reference_of_ofRecord? held
    exact ⟨given, fun _ => ⟨package, record, asked, first, reference, rfl⟩⟩
  · refine .check (fun _ _ => nofun) fun reference given => .done ?_
    rintro _ ⟨⟩
    refine ⟨ne_empty_of_requiredText given, fun none => ?_⟩
    rw [optionalText_of_requiredText given] at none
    cases none

/-- What is recorded of a release is what is read from its record, unless the caller has given up. -/
theorem ensures_recordedSource (operation home id : String) :
    (recordedSource operation home id).Ensures .objects now objects fun outcome _ =>
      (∀ failure, outcome = .error failure → failure = .cancelled) ∧
        ∀ found, outcome = .ok found → found = (objects.get? (recordKey home id)).bind ofRecord? := by
  refine .connect ⟨fun _ ended => (Except.error.inj ended).symm, nofun⟩ (.get ?_ ?_)
  · intro absent
    refine .done ⟨nofun, ?_⟩
    rintro _ ⟨⟩
    rw [absent]
    rfl
  · intro record present
    refine .done ⟨nofun, ?_⟩
    rintro _ ⟨⟩
    rw [present]
    rfl

/-- An update never asks for a chart without a reference. -/
theorem ensures_updatedSource (revision : ReleaseRevision) (id : String) {update : DeploymentUpdate}
    {chart : Option String} (version repo : Option String)
    (given : optionalText update.extensions "chart" = .ok chart) :
    (updatedSource revision id update chart version repo).Ensures .objects now objects
      fun outcome _ => ∀ found, outcome = .ok found → found.1.reference ≠ "" := by
  unfold updatedSource
  split
  · refine .done ?_
    rintro _ ⟨⟩
    exact ne_empty_of_optionalText given
  · rename_i package _
    refine ((ensures_chartOf package).bind ?_ fun _ _ _ => nofun)
    rintro ⟨source, recorded⟩ after found
    obtain ⟨record, -, held, -⟩ := found _ rfl
    have given : source.reference ≠ "" := reference_ne_empty held
    refine .done ?_
    rintro _ ⟨⟩
    exact given
  · refine ((ensures_recordedSource "update" revision.namespace id).bind ?_ fun _ _ _ => nofun)
    rintro recorded after found
    have held := found.2 recorded rfl
    cases recorded with
    | none => exact .done nofun
    | some source =>
      obtain ⟨record, -, held⟩ := Option.bind_eq_some_iff.mp held.symm
      have given : source.reference ≠ "" := reference_ne_empty held
      refine .done ?_
      rintro _ ⟨⟩
      exact given

/-! What the operations do. -/

variable {returns : String → Prop}

/-- The operation that a program carries out is a step. -/
abbrev Steps {α : Type} (now : Time.Instant) (mayGiveUp : Objects × Store → Prop)
    (returns : String → Prop) (s : Objects × Store) (p : Program α) : Prop :=
  p.EnsuresWhere .both now mayGiveUp s fun _ after => Step mayGiveUp returns now s after

private theorem steps_done {α : Type} (outcome : Outcome α) :
    Steps now mayGiveUp returns (objects, store) (Program.done outcome) :=
  .done (.unchanged _)

/-- The installation that a request leads to, from the source it asks for. -/
structure Requests (objects : Objects) (request : DeploymentRequest) (install : InstallRequest)
    (source : ChartSource) : Prop where
  chart : install.chart = source.reference
  given : source.reference ≠ ""
  package : optionalText request.extensions "chart" = .ok none → ∃ package record version,
    namedPackage request.packageId = some package ∧ recordOf? objects package = some record ∧
      source.reference = record.stringAt ["data", "chart"] ∧
      optionalText request.extensions "version" = .ok version ∧
      install.version = some (version.getD (record.stringAt ["data", "version"]))

/-- What a creation comes to: nothing, or the first revision of a release, whose source is to be
remembered. -/
inductive Creation (mayGiveUp : Objects × Store → Prop) (now : Time.Instant) (objects : Objects)
    (store : Store) (request : DeploymentRequest) : Outcome Deployment → Objects × Store → Prop where
  | failed (failure : Failure) :
    Creation mayGiveUp now objects store request (.error failure) (objects, store)
  | made {after : Objects} {install : InstallRequest} {source : ChartSource}
    (requests : Requests objects request install source)
    (free : store.latest? install.namespace install.name = none)
    (remembers : Remembers (mayGiveUp (objects, (store.push (Store.installed now install)).2)) objects
      (store.push (Store.installed now install)).1 source after) :
    Creation mayGiveUp now objects store request
      (.ok (toDeployment now (store.push (Store.installed now install)).1))
      (after, (store.push (Store.installed now install)).2)

theorem Creation.unchanged {request : DeploymentRequest} {failure : Failure} {after : Objects × Store}
    (creation : Creation mayGiveUp now objects store request (.error failure) after) :
    after = (objects, store) := by
  cases creation
  rfl

theorem createDeployment_where (request : DeploymentRequest) :
    (createDeployment now request).EnsuresWhere .both now mayGiveUp (objects, store)
      (Creation mayGiveUp now objects store request) := by
  refine .reads (by simp) .failed fun _ => ?_
  refine .check (fun _ _ => .failed _) fun _ _ => .check (fun _ _ => .failed _) fun _ _ => ?_
  refine .check (fun _ _ => .failed _) fun version versioned => ?_
  refine .check (fun _ _ => .failed _) fun repo _ => ?_
  refine ((ensures_requestedSource request version repo).both_of_objects
    (readOnly_requestedSource request version repo)).where.bind ?_ ?_
  case refine_2 =>
    rintro failure _ ⟨rfl, -⟩
    exact .failed failure
  rintro ⟨source, wanted⟩ _ ⟨rfl, found⟩
  obtain ⟨given, found⟩ := found _ rfl
  refine .reads (by simp) .failed fun _ => where_install ?_
  -- The name is in use, and nothing happens, or the first revision is made.
  unfold Store.install
  split
  · exact .done (.failed _)
  · rename_i free
    refine (remember_where _ source).bind ?_ ?_
    · rintro ⟨⟩ _ ⟨-, objects', rfl, remembers⟩
      refine .done (.made ⟨rfl, given, fun unnamed => ?_⟩ free remembers)
      obtain ⟨package, record, named, leads, reference, rfl⟩ := found unnamed
      exact ⟨package, record, version, named, leads, reference, versioned, rfl⟩
    · rintro _ _ ⟨⟨⟩, -⟩

theorem steps_createDeployment (request : DeploymentRequest) :
    Steps now mayGiveUp returns (objects, store) (createDeployment now request) := by
  refine (createDeployment_where request).mono fun outcome after creation => ?_
  cases creation with
  | failed _ => exact .unchanged _
  | made requests free remembers => exact .installed requests.given requests.chart free remembers

theorem steps_deleteDeployment (id : String) :
    Steps now mayGiveUp returns (objects, store) (deleteDeployment id) := by
  refine .reads (by simp) (fun _ => .unchanged _) fun _ => ?_
  refine .reads (readOnly_locate "delete" id) (fun _ => .unchanged _) fun home => ?_
  refine .reads (by simp) (fun _ => .unchanged _) fun _ => where_uninstall ?_
  rcases found : store.history? home id with _ | history
  · rw [store.uninstall_of_none found]
    exact steps_done _
  · rw [Store.uninstall_of_some _ found]
    simp only [Program.expect_ok, Program.done_ok_bind]
    refine (forgetSource_where home id).mono fun outcome after ended => ?_
    obtain ⟨-, objects', rfl, forgets⟩ := ended
    exact .uninstalled (by rw [found]; exact Option.some_ne_none history) forgets

theorem steps_upgrade {operation : String} {request : UpgradeRequest} {source : ChartSource}
    (given : source.reference ≠ "") (chart : request.chart = source.reference) :
    Steps now mayGiveUp returns (objects, store) (upgrade now operation request source) := by
  refine .reads (by simp) (fun _ => .unchanged _) fun _ => where_upgrade ?_
  rcases latest : store.latest? request.namespace request.name with _ | current
  · simp only [Store.upgrade, latest]
    exact steps_done _
  · rw [store.upgrade_of_latest now latest]
    refine (remember_where _ source).bind ?_ ?_
    · rintro ⟨⟩ _ ⟨-, objects', rfl, remembers⟩
      exact .done (.upgraded given chart latest remembers)
    · rintro _ _ ⟨⟨⟩, -⟩

theorem steps_updateDeployment (id : String) (update : DeploymentUpdate) :
    Steps now mayGiveUp returns (objects, store) (updateDeployment now id update) := by
  refine .reads (by simp) (fun _ => .unchanged _) fun _ => ?_
  refine .check (fun _ _ => .unchanged _) fun chart given => ?_
  refine .check (fun _ _ => .unchanged _) fun version _ => ?_
  refine .check (fun _ _ => .unchanged _) fun repo _ => ?_
  refine .reads (readOnly_current "update" id) (fun _ => .unchanged _) fun revision => ?_
  refine ((ensures_updatedSource revision id version repo given).both_of_objects
    (readOnly_updatedSource revision id update chart version repo)).where.bind ?_ ?_
  · rintro ⟨source, version⟩ _ ⟨rfl, found⟩
    exact steps_upgrade (found _ rfl) rfl
  · rintro failure _ ⟨rfl, -⟩
    exact .unchanged _

theorem steps_scaleDeployment (id : String) (replicas : Int32) :
    Steps now mayGiveUp returns (objects, store) (scaleDeployment now id replicas) := by
  refine .reads (by simp) (fun _ => .unchanged _) fun _ => ?_
  refine .check (fun _ _ => .unchanged _) fun _ _ => .check (fun _ _ => .unchanged _) fun _ _ => ?_
  refine .reads (readOnly_current "scale" id) (fun _ => .unchanged _) fun revision => ?_
  refine ((ensures_recordedSource "scale" revision.namespace id).both_of_objects
    (readOnly_recordedSource "scale" revision.namespace id)).where.bind ?_ ?_
  · rintro recorded _ ⟨rfl, found⟩
    have held := found.2 recorded rfl
    cases recorded with
    | none => exact steps_done _
    | some source =>
      obtain ⟨record, -, held⟩ := Option.bind_eq_some_iff.mp held.symm
      exact steps_upgrade (reference_ne_empty held) rfl
  · rintro failure _ ⟨rfl, -⟩
    exact .unchanged _

/-- A revision that was restored is remembered with the source that is on record. -/
theorem renew_where (home id : String) (restored : ReleaseRevision) :
    (renew now home id restored).EnsuresWhere .both now mayGiveUp (objects, store) fun _ after =>
      ∃ objects', after = (objects', store) ∧ (objects' = objects ∨ ∃ record source,
        objects.get? (recordKey home id) = some record ∧ ofRecord? record = some source ∧
          Remembers (mayGiveUp (objects, store)) objects restored source objects') := by
  refine ((ensures_recordedSource "rollback" home id).both_of_objects
    (readOnly_recordedSource "rollback" home id)).attempt.where.bind ?_ ?_
  · rintro _ _ ⟨failure | recorded, ⟨⟩, rfl, found⟩
    · exact .done ⟨objects, rfl, .inl rfl⟩
    have held := found.2 recorded rfl
    cases recorded with
    | none => exact .done ⟨objects, rfl, .inl rfl⟩
    | some source =>
      obtain ⟨record, present, held⟩ := Option.bind_eq_some_iff.mp held.symm
      refine (remember_where restored source).bind ?_ ?_
      · rintro ⟨⟩ _ ⟨-, objects', rfl, remembers⟩
        exact .done ⟨objects', rfl, .inr ⟨record, source, present, held, remembers⟩⟩
      · rintro _ _ ⟨⟨⟩, -⟩
  · rintro _ _ ⟨_, ⟨⟩, -⟩

private theorem steps_rollbackTo (home : String) {id : String} (asked : returns id) (number : Int64) :
    Steps now mayGiveUp returns (objects, store) (rollbackTo now home id number) := by
  refine where_rollback ?_
  rcases store.rollback_cases home id number with ⟨error, refused⟩ | ⟨target, mem, repeats⟩
  · rw [refused]
    exact steps_done _
  obtain ⟨restored, status⟩ := store.status_of_rollback repeats
  have latest : (store.push (Store.repeated target number)).2.latest? home id = some restored := by
    unfold Store.status at status
    split at status
    · rename_i found
      cases status
      exact found
    · cases status
  rw [repeats]
  refine .check nofun fun _ _ => where_releaseStatus ?_
  rw [status]
  refine .check nofun fun _ same => ?_
  cases same
  refine (renew_where home id restored).mono fun outcome after ended => ?_
  obtain ⟨objects', rfl, remembers⟩ := ended
  exact .repeated asked mem latest remembers

theorem steps_rollbackDeployment {id : String} (asked : returns id) (revision : Int64) :
    Steps now mayGiveUp returns (objects, store) (rollbackDeployment now id revision) := by
  refine .reads (by simp) (fun _ => .unchanged _) fun _ => ?_
  refine .check (fun _ _ => .unchanged _) fun _ _ => .check (fun _ _ => .unchanged _) fun _ _ => ?_
  refine .reads (readOnly_locate "rollback" id) (fun _ => .unchanged _) fun home => ?_
  refine .reads (by simp) (fun _ => .unchanged _) fun _ => ?_
  refine .reads (by simp) (fun _ => .unchanged _) fun reply => ?_
  refine .reads (by simp) (fun _ => .unchanged _) fun history => ?_
  refine .check (fun _ _ => .unchanged _) fun index _ => ?_
  exact steps_rollbackTo home asked _

/-- Whatever is asked, it is a step, which returns no release but the one that is asked for. -/
theorem steps_action (now : Time.Instant) (mayGiveUp : Objects × Store → Prop) (s : Objects × Store)
    (action : Action) :
    Steps now mayGiveUp (fun id => ∃ revision, action = .rollbackDeployment id revision) s
      (action.program (operations now)) := by
  obtain ⟨objects, store⟩ := s
  have reading {returns : String → Prop} (reads : (action.program (operations now)).ReadOnly) :
      Steps now mayGiveUp returns (objects, store) (action.program (operations now)) := by
    refine (reads.ensures (objects, store)).where.mono fun outcome after same => ?_
    rw [same]
    exact .unchanged _
  cases action with
  | createDeployment request => exact steps_createDeployment request
  | updateDeployment id update => exact steps_updateDeployment id update
  | deleteDeployment id => exact steps_deleteDeployment id
  | scaleDeployment id replicas => exact steps_scaleDeployment id replicas
  | rollbackDeployment id revision => exact steps_rollbackDeployment ⟨revision, rfl⟩ revision
  | uploadPackage upload => exact reading (by simp [operations, uploadPackage])
  | deletePackage id => exact reading (by simp [operations, deletePackage])
  | _ => exact reading (readOnly_action now rfl)

end OnManager

end DeploymentGateway.Release
