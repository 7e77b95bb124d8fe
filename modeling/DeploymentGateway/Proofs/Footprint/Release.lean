import DeploymentGateway.Proofs.Program.Scope
import DeploymentGateway.Proofs.Release.Step
/-!
What operations on releases may change. An operation leads to the one release of a namespace and a name, to
which it adds a revision or which it removes, and it keeps the record of that release; where a name leads to
several namespaces, it refuses to do anything.
-/

set_option autoImplicit false

namespace DeploymentGateway.Release

open Cluster

/-- Of the releases only one has changed, and of the objects only its record. -/
structure OnlyRelease (home name : String) (s after : Objects × Store) : Prop where
  objects : ChangesOnly (· = recordKey home name) s.1 after.1
  releases : ∀ home' name', ¬ (home' = home ∧ name' = name) →
    after.2.history? home' name' = s.2.history? home' name'

namespace OnlyRelease

variable {home name : String} {objects objects' : Objects} {store store' : Store}

theorem refl (home name : String) (s : Objects × Store) : OnlyRelease home name s s :=
  ⟨.refl _ _, fun _ _ _ => rfl⟩

theorem push (objects : Objects) (store : Store) (next : ReleaseRevision) :
    OnlyRelease next.namespace next.name (objects, store) (objects, (store.push next).2) :=
  ⟨.refl _ _, fun _ _ away => store.history?_push_of_ne away⟩

theorem uninstall (home name : String) (objects : Objects) (store : Store) :
    OnlyRelease home name (objects, store) (objects, ⟨store.releases.erase ⟨home, name⟩⟩) := by
  refine ⟨.refl _ _, fun home' name' away => SortedMap.get?_erase_of_ne _ ?_⟩
  rintro same
  cases same
  exact away ⟨rfl, rfl⟩

/-- What follows may change the record. -/
theorem record (h : OnlyRelease home name (objects, store) (objects, store'))
    (changed : ChangesOnly (· = recordKey home name) objects objects') :
    OnlyRelease home name (objects, store) (objects', store') :=
  ⟨changed, h.releases⟩

end OnlyRelease

/-- To remember the source of a revision changes the record of its release at most. -/
theorem Remembers.changesOnly {gaveUp : Prop} {objects after : Objects} {revision : ReleaseRevision}
    {source : ChartSource} (h : Remembers gaveUp objects revision source after) :
    ChangesOnly (· = recordKey revision.namespace revision.name) objects after := by
  cases h with
  | lapsed _ => exact .refl _ _
  | written _ =>
    intro key away
    exact SortedMap.get?_insert_of_ne _ away _

namespace OnManager

variable {now : Time.Instant} {objects : Objects} {store : Store}

/-- To remember a source is left to the cluster. -/
theorem sparesReleases_remember (revision : ReleaseRevision) (source : ChartSource) :
    (remember revision source).SparesReleases := by
  refine Program.sparesReleases_bind (Program.sparesReleases_attempt ?_) fun _ => trivial
  refine Program.sparesReleases_bind (by simp) fun _ => Program.sparesReleases_bind (by simp) fun found => ?_
  rcases found with (_ | _ | _ | _) | existing <;> simp [forall_reply]

/-- Whatever comes of it, a program changes one release at most. -/
abbrev Keeps {α : Type} (now : Time.Instant) (home name : String) (s : Objects × Store)
    (p : Program α) : Prop :=
  p.EnsuresWhere .both now (fun _ => True) s fun _ after => OnlyRelease home name s after

/-- A revision that has been added is remembered. -/
private theorem keeps_remember {α : Type} {next : ReleaseRevision} (source : ChartSource)
    {outcome : Outcome α} :
    (remember (store.push next).1 source >>= fun _ => .done outcome).EnsuresWhere .both now
      (fun _ => True) (objects, (store.push next).2) fun _ after =>
        OnlyRelease next.namespace next.name (objects, store) after := by
  refine (remember_where _ source).bind ?_ ?_
  · rintro ⟨⟩ _ ⟨-, objects', rfl, remembers⟩
    exact .done ((OnlyRelease.push objects store next).record remembers.changesOnly)
  · rintro _ _ ⟨⟨⟩, -⟩

theorem keeps_createDeployment (request : DeploymentRequest) :
    Keeps now request.namespace request.name (objects, store) (createDeployment now request) := by
  have unchanged := OnlyRelease.refl request.namespace request.name (objects, store)
  refine .reads (by simp) (fun _ => unchanged) fun _ => ?_
  refine .check (fun _ _ => unchanged) fun _ _ => .check (fun _ _ => unchanged) fun _ _ => ?_
  refine .check (fun _ _ => unchanged) fun version _ => .check (fun _ _ => unchanged) fun repo _ => ?_
  refine .reads (readOnly_requestedSource request version repo) (fun _ => unchanged) fun found => ?_
  refine .reads (by simp) (fun _ => unchanged) fun _ => where_install ?_
  unfold Store.install
  split
  · exact .done unchanged
  · exact keeps_remember found.1

private theorem keeps_upgrade (filed : store.Filed) {operation : String} {request : UpgradeRequest}
    {source : ChartSource} :
    Keeps now request.namespace request.name (objects, store)
      (upgrade now operation request source) := by
  have unchanged := OnlyRelease.refl request.namespace request.name (objects, store)
  refine .reads (by simp) (fun _ => unchanged) fun _ => where_upgrade ?_
  rcases latest : store.latest? request.namespace request.name with _ | current
  · simp only [Store.upgrade, latest]
    exact .done unchanged
  · obtain ⟨history, found, last⟩ := Option.bind_eq_some_iff.mp latest
    obtain ⟨named, placed⟩ := filed.own _ _ history found current (List.mem_of_getLast? last)
    rw [store.upgrade_of_latest now latest, ← named, ← placed]
    exact keeps_remember source

/-- The revision that is repeated is one of the release, and so is then the last one. -/
private theorem keeps_rollbackTo (filed : store.Filed) (home id : String) (number : Int64) :
    Keeps now home id (objects, store) (rollbackTo now home id number) := by
  refine where_rollback ?_
  rcases store.rollback_cases home id number with ⟨error, refused⟩ | ⟨target, mem, repeats⟩
  · rw [refused]
    exact .done (.refl home id _)
  rcases found : store.history? home id with _ | history
  · simp [found] at mem
  rw [found, Option.getD_some] at mem
  obtain ⟨rfl, rfl⟩ := filed.own home id history found target mem
  have pushed := OnlyRelease.push objects store (Store.repeated target number)
  have status : (store.push (Store.repeated target number)).2.status target.namespace target.name =
      .ok (store.push (Store.repeated target number)).1 := by
    have latest : (store.push (Store.repeated target number)).2.latest? target.namespace target.name =
        some _ := Store.latest?_of_history? _ (store.history?_push_self (Store.repeated target number))
    rw [Store.status, latest]
  rw [repeats]
  refine .check (by rintro _ ⟨⟩) fun _ _ => where_releaseStatus ?_
  rw [status]
  refine .check (by rintro _ ⟨⟩) fun _ same => ?_
  cases same
  refine (renew_where _ _ _).mono ?_
  rintro outcome _ ⟨objects', rfl, rfl | ⟨record, source, -, -, remembers⟩⟩
  · exact pushed
  · exact pushed.record remembers.changesOnly

/-! What is done to the release that an id leads to. -/

/-- A program does nothing, or it changes the one release that an id leads to. -/
abbrev KeepsTo {α : Type} (now : Time.Instant) (id : String) (s : Objects × Store) (p : Program α) :
    Prop :=
  p.EnsuresWhere .both now (fun _ => True) s fun _ after =>
    after = s ∨ ∃ home, s.2.namespaces id = [home] ∧ OnlyRelease home id s after

section

variable {id : String}

/-- A search for the release of an id either fails, or the program goes on in its namespace. -/
private theorem keepsTo_locate {α : Type} {operation : String} {go : String → Program α}
    (goes : ∀ home, store.namespaces id = [home] → Keeps now home id (objects, store) (go home)) :
    KeepsTo now id (objects, store) (locate operation id >>= go) := by
  refine (ensures_locate.both_of_releases (readOnly_locate operation id)).where.bind ?_ ?_
  · rintro home _ ⟨rfl, -, found⟩
    obtain ⟨-, listed⟩ := found home rfl
    exact (goes home listed).mono fun _ _ only => .inr ⟨home, listed, only⟩
  · rintro failure _ ⟨rfl, -⟩
    exact .inl rfl

/-- So does a search for its last revision, which has the namespace and the name. -/
private theorem keepsTo_current (filed : store.Filed) {α : Type} {operation : String}
    {go : ReleaseRevision → Program α}
    (goes : ∀ revision, revision.name = id →
      Keeps now revision.namespace id (objects, store) (go revision)) :
    KeepsTo now id (objects, store) (current operation id >>= go) := by
  refine (ensures_current.both_of_releases (readOnly_current operation id)).where.bind ?_ ?_
  · rintro revision _ ⟨rfl, -, found⟩
    obtain ⟨-, home, listed, latest⟩ := found revision rfl
    obtain ⟨history, kept, last⟩ := Option.bind_eq_some_iff.mp latest
    obtain ⟨rfl, rfl⟩ := filed.own home id history kept revision (List.mem_of_getLast? last)
    exact (goes revision rfl).mono fun _ _ only => .inr ⟨_, listed, only⟩
  · rintro failure _ ⟨rfl, -⟩
    exact .inl rfl

theorem keepsTo_deleteDeployment :
    KeepsTo now id (objects, store) (deleteDeployment id) := by
  refine .reads (by simp) (fun _ => .inl rfl) fun _ => keepsTo_locate fun home _ => ?_
  have unchanged := OnlyRelease.refl home id (objects, store)
  refine .reads (by simp) (fun _ => unchanged) fun _ => where_uninstall ?_
  rcases found : store.history? home id with _ | history
  · rw [store.uninstall_of_none found]
    exact .done unchanged
  · rw [store.uninstall_of_some found]
    have removed := OnlyRelease.uninstall home id objects store
    refine (forgetSource_where home id).mono ?_
    rintro outcome _ ⟨-, objects', rfl, rfl | ⟨rfl, -⟩⟩
    · exact removed.record ((ChangesOnly.refl (· = recordKey home id) objects).erase rfl)
    · exact removed

theorem keepsTo_updateDeployment (filed : store.Filed) (update : DeploymentUpdate) :
    KeepsTo now id (objects, store) (updateDeployment now id update) := by
  refine .reads (by simp) (fun _ => .inl rfl) fun _ => .check (fun _ _ => .inl rfl) fun chart _ => ?_
  refine .check (fun _ _ => .inl rfl) fun version _ => .check (fun _ _ => .inl rfl) fun repo _ => ?_
  refine keepsTo_current filed fun revision named => ?_
  subst named
  refine .reads (readOnly_updatedSource revision _ update chart version repo) (fun _ => .refl _ _ _)
    fun found => ?_
  exact keeps_upgrade filed

theorem keepsTo_scaleDeployment (filed : store.Filed) (replicas : Int32) :
    KeepsTo now id (objects, store) (scaleDeployment now id replicas) := by
  refine .reads (by simp) (fun _ => .inl rfl) fun _ => .check (fun _ _ => .inl rfl) fun _ _ => ?_
  refine .check (fun _ _ => .inl rfl) fun _ _ => keepsTo_current filed fun revision named => ?_
  subst named
  refine .reads (readOnly_recordedSource _ _ _) (fun _ => .refl _ _ _) fun recorded => ?_
  cases recorded with
  | none => exact .done (.refl _ _ _)
  | some source => exact keeps_upgrade filed

theorem keepsTo_rollbackDeployment (filed : store.Filed) (revision : Int64) :
    KeepsTo now id (objects, store) (rollbackDeployment now id revision) := by
  refine .reads (by simp) (fun _ => .inl rfl) fun _ => .check (fun _ _ => .inl rfl) fun _ _ => ?_
  refine .check (fun _ _ => .inl rfl) fun _ _ => keepsTo_locate fun home _ => ?_
  have unchanged := OnlyRelease.refl home id (objects, store)
  refine .reads (by simp) (fun _ => unchanged) fun _ => .reads (by simp) (fun _ => unchanged) fun _ => ?_
  refine .reads (by simp) (fun _ => unchanged) fun history => ?_
  refine .check (fun _ _ => unchanged) fun index _ => ?_
  exact keeps_rollbackTo filed home id _

end

/-! A name that is used in several namespaces. -/

/-- A caller who always waits is told that what was asked is not valid, and finds everything as it was. -/
def IsRefused {α : Type} (now : Time.Instant) (memory : Memory) (p : Program α) : Prop :=
  ∃ failure, failure.kind = .validation ∧ p.runInMemory now memory = (.error failure, memory)

section

variable {memory : Memory} {id : String}

private theorem IsRefused.bind {α β : Type} {p : Program α} (refused : IsRefused now memory p)
    (f : α → Program β) : IsRefused now memory (p >>= f) := by
  obtain ⟨failure, invalid, run⟩ := refused
  exact ⟨failure, invalid, by rw [Program.runInMemory_bind, run]⟩

private theorem isRefused_check {α β : Type} {outcome : Outcome α} (strict : outcome.Strict)
    {f : α → Program β} (next : ∀ a, IsRefused now memory (f a)) :
    IsRefused now memory (Program.ofOutcome outcome >>= f) := by
  rcases outcome with failure | a
  · exact ⟨failure, strict failure rfl, rfl⟩
  · exact next a

variable (filed : memory.releases.Filed) {home home' : String} (apart : home ≠ home')
  (there : memory.releases.history? home id ≠ none) (there' : memory.releases.history? home' id ≠ none)

include filed apart there there'

private theorem isRefused_locate (operation : String) :
    IsRefused now memory (locate operation id) := by
  refine isRefused_check (Rules.checkName_strict "id" id) fun _ => ?_
  obtain ⟨first, second, rest, listed⟩ := filed.namespaces_of_ne apart there there'
  rw [Store.namespaces] at listed
  simp [IsRefused, listed, Failure.kind]

private theorem isRefused_current (operation : String) :
    IsRefused now memory (current operation id) :=
  (isRefused_locate filed apart there there' operation).bind _

theorem isRefused_deleteDeployment : IsRefused now memory (deleteDeployment id) :=
  (isRefused_locate filed apart there there' "delete").bind _

theorem isRefused_updateDeployment (update : DeploymentUpdate) :
    IsRefused now memory (updateDeployment now id update) :=
  isRefused_check (Rules.optionalText_strict _ _) fun _ =>
    isRefused_check (Rules.optionalText_strict _ _) fun _ =>
      isRefused_check (Rules.optionalText_strict _ _) fun _ =>
        (isRefused_current filed apart there there' "update").bind _

theorem isRefused_scaleDeployment (replicas : Int32) :
    IsRefused now memory (scaleDeployment now id replicas) :=
  isRefused_check (Rules.checkName_strict _ _) fun _ =>
    isRefused_check (Rules.checkReplicas_strict _) fun _ =>
      (isRefused_current filed apart there there' "scale").bind _

theorem isRefused_rollbackDeployment (revision : Int64) :
    IsRefused now memory (rollbackDeployment now id revision) :=
  isRefused_check (Rules.checkName_strict _ _) fun _ =>
    isRefused_check (Rules.checkRevision_strict _) fun _ =>
      (isRefused_locate filed apart there there' "rollback").bind _

end

end OnManager

end DeploymentGateway.Release
