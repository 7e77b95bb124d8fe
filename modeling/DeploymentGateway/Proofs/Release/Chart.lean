import DeploymentGateway.Proofs.Release.Filing
import DeploymentGateway.Proofs.Release.Record
import DeploymentGateway.Proofs.Rules
/-!
Which chart a release has after it is scaled or given new values. The manager keeps the history of each
release, and the cluster keeps the record of where its chart comes from. Operations keep the two in
step: the record names the chart of the last revision that was asked for with a chart. A rollback
repeats an older revision and leaves the record at the newer one, so what follows a rollback is made
from the chart that was asked for last, and not from the one that runs.
-/

set_option autoImplicit false

namespace DeploymentGateway.Release

open Cluster Rules

/-- The records of the cluster and the histories of the manager agree on the charts of all releases. -/
structure InStep (memory : Memory) : Prop where
  accepts : memory.cluster.rejectedUpdates = []
  own : ∀ home name history, memory.releases.history? home name = some history →
    ∀ revision ∈ history, revision.name = name ∧ revision.namespace = home
  recorded : ∀ home name history, memory.releases.history? home name = some history →
    ∃ source, recorded? memory.cluster home name = some source ∧
      (lastRequested? history).map ReleaseRevision.chart = some (Store.chartName source.reference)

/-- The one release of a name, with its last revision and those before. -/
structure Sole (store : Store) (home name : String) (earlier : List ReleaseRevision)
    (last : ReleaseRevision) : Prop where
  history : store.history? home name = some (earlier ++ [last])
  unique : ∀ home' history, store.history? home' name = some history → home' = home

/-- The one release of a name got one further revision, in the version that ran, with some values over
those it had, and with the chart that was asked for last. -/
structure Extended (before after : Memory) (id : String) (values : Extensions) (home : String)
    (earlier : List ReleaseRevision) (last next : ReleaseRevision) : Prop where
  sole : Sole before.releases home id earlier last
  history : after.releases.history? home id =
    some ((earlier ++ [last]).map Store.supersede ++ [next])
  version : next.chartVersion = last.chartVersion
  config : next.config = last.config.union values
  chart : (lastRequested? (earlier ++ [last])).map ReleaseRevision.chart = some next.chart

namespace InStep

variable {memory : Memory} (h : InStep memory)

include h

/-- No history is empty. -/
theorem history_ne_nil {home name : String} {history : List ReleaseRevision}
    (found : memory.releases.history? home name = some history) : history ≠ [] := by
  rintro rfl
  obtain ⟨source, -, charts⟩ := h.recorded home name [] found
  simp [lastRequested?] at charts

theorem filed : memory.releases.Filed where
  nonempty _ _ _ found := h.history_ne_nil found
  own := h.own

/-- A history that is the only one of its name has a last revision. -/
theorem sole {home id : String}
    (listed : ((memory.releases.list none).filter fun r => r.name == id).map
      (fun r => r.namespace) = [home]) :
    ∃ earlier last, Sole memory.releases home id earlier last := by
  obtain ⟨there, alone⟩ := h.filed.namespaces_eq_singleton_iff.mp listed
  obtain ⟨history, found⟩ := Option.ne_none_iff_exists'.mp there
  refine ⟨history.dropLast, history.getLast (h.history_ne_nil found), ?_, ?_⟩
  · rw [found, List.dropLast_append_getLast]
  · intro home' history' found'
    refine alone home' ?_
    rw [found']
    exact Option.some_ne_none history'

/-- A further revision, with the record of its release renewed, keeps both in step. -/
theorem push {next : ReleaseRevision} {reference : String} {after : Memory}
    (renewed : Renewed ⟨memory.cluster, (memory.releases.push next).2⟩ after
      next.namespace next.name reference)
    (charts : (lastRequested? ((((memory.releases.history? next.namespace next.name).getD []).map
        Store.supersede) ++ [(memory.releases.push next).1])).map ReleaseRevision.chart =
      some (Store.chartName reference)) : InStep after where
  accepts := renewed.accepts.trans h.accepts
  own := by
    rw [renewed.releases]
    exact (h.filed.push next).own
  recorded := by
    intro home name history found
    rw [renewed.releases] at found
    by_cases same : home = next.namespace ∧ name = next.name
    · obtain ⟨rfl, rfl⟩ := same
      rw [Store.history?_push_self] at found
      cases found
      obtain ⟨source, held, rfl⟩ := renewed.source
      exact ⟨source, held, charts⟩
    · rw [Store.history?_push_of_ne _ same] at found
      rw [renewed.others home name same]
      exact h.recorded home name history found

/-- When a release and its record are removed, the others are still in step. -/
theorem remove {home name : String} {after : Memory}
    (releases : after.releases = ⟨memory.releases.releases.erase ⟨home, name⟩⟩)
    (accepts : after.cluster.rejectedUpdates = memory.cluster.rejectedUpdates)
    (others : ∀ home' name', ¬ (home' = home ∧ name' = name) →
      recorded? after.cluster home' name' = recorded? memory.cluster home' name') :
    InStep after := by
  have apart : ∀ home' name' history, after.releases.history? home' name' = some history →
      ¬ (home' = home ∧ name' = name) ∧
        memory.releases.history? home' name' = some history := by
    intro home' name' history found
    rw [releases] at found
    by_cases same : home' = home ∧ name' = name
    · obtain ⟨rfl, rfl⟩ := same
      rw [Store.history?, SortedMap.get?_erase_self] at found
      cases found
    · refine ⟨same, ?_⟩
      rwa [Store.history?, SortedMap.get?_erase_of_ne] at found
      intro e
      cases e
      exact same ⟨rfl, rfl⟩
  refine ⟨accepts.trans h.accepts, ?_, ?_⟩
  · intro home' name' history found
    exact h.own home' name' history (apart home' name' history found).2
  · intro home' name' history found
    obtain ⟨ne, found⟩ := apart home' name' history found
    rw [others home' name' ne]
    exact h.recorded home' name' history found

end InStep

namespace OnManager

variable {now : Time.Instant} {memory : Memory}

/-- A release is located only if it is the one of its name. -/
theorem locate_ends (h : InStep memory) (operation id : String) :
    (locate operation id).Ends now memory
      (fun home after => after = memory ∧
        ∃ earlier last, Sole memory.releases home id earlier last)
      (fun after => after = memory) := by
  refine Program.ends_check rfl fun _ _ => ?_
  simp
  split
  · simp
  · rename_i home listed
    simpa using h.sole listed
  · simp

/-- The last revision that is found for a name is that of the one release of the name. -/
theorem current_ends (h : InStep memory) (operation id : String) :
    (current operation id).Ends now memory
      (fun revision after => after = memory ∧ revision.name = id ∧
        ∃ earlier, Sole memory.releases revision.namespace id earlier revision)
      (fun after => after = memory) := by
  refine (locate_ends h operation id).bind ?_ fun _ same => same
  rintro home after ⟨rfl, earlier, last, sole⟩
  have latest := after.releases.latest?_of_history? sole.history
  obtain ⟨name, rfl⟩ := h.own home id _ sole.history last (by simp)
  simp [Store.status, latest]
  exact ⟨name, earlier, sole⟩

/-- The source that a package id stands for has a reference. -/
theorem chartOf_ends (package : String) :
    (chartOf package).Ends now memory
      (fun found after => found.1.reference ≠ "" ∧ after = memory) (fun after => after = memory) := by
  simp [chartOf]
  split
  · rename_i found rest first
    have mem : found ∈ found :: rest := List.mem_cons_self
    rw [← first] at mem
    obtain ⟨record, -, read⟩ := List.mem_filterMap.mp mem
    obtain ⟨source, held, rfl⟩ := Option.map_eq_some_iff.mp read
    simpa using ChartSource.reference_ne_empty held
  · simp [installed]
    split <;> simp

/-- The source that a request asks for has a reference. -/
theorem requestedSource_ends (request : DeploymentRequest) (version repo : Option String) :
    (requestedSource request version repo).Ends now memory
      (fun found after => found.1.reference ≠ "" ∧ after = memory) (fun after => after = memory) := by
  refine Program.ends_check rfl fun chart _ => ?_
  split
  · refine (chartOf_ends _).bind ?_ fun _ same => same
    rintro ⟨source, recorded⟩ after found
    exact found
  · refine Program.ends_check rfl fun reference given => ?_
    exact ⟨ne_empty_of_requiredText given, rfl⟩

/-- The source that an update asks for has a reference. -/
theorem updatedSource_ends (revision : ReleaseRevision) (id : String) {update : DeploymentUpdate}
    {chart : Option String} (version repo : Option String)
    (given : optionalText update.extensions "chart" = .ok chart) :
    (updatedSource revision id update chart version repo).Ends now memory
      (fun found after => found.1.reference ≠ "" ∧ after = memory) (fun after => after = memory) := by
  unfold updatedSource
  split
  · exact ⟨ne_empty_of_optionalText given, rfl⟩
  · refine (chartOf_ends _).bind ?_ fun _ same => same
    rintro ⟨source, recorded⟩ after found
    exact found
  · refine (recordedSource_ends "update" revision.namespace id).bind ?_ fun _ => False.elim
    rintro found after ⟨rfl, rfl⟩
    split
    · rename_i source held
      have nonempty : source.reference ≠ "" := reference_ne_empty_of_recorded? held
      exact ⟨nonempty, rfl⟩
    · rfl

/-- A release that is upgraded has one more revision, with the chart of the source, which is on record
then. -/
theorem upgrade_ends (h : InStep memory) {source : ChartSource} (given : source.reference ≠ "")
    (operation : String) {request : UpgradeRequest} (chart : request.chart = source.reference)
    {history : List ReleaseRevision} {last : ReleaseRevision}
    (found : memory.releases.history? request.namespace request.name = some history)
    (ends : history.getLast? = some last) :
    (upgrade now operation request source).Ends now memory
      (fun _ after => InStep after ∧ ∃ next,
        after.releases.history? request.namespace request.name =
            some (history.map Store.supersede ++ [next]) ∧
          next.chart = Store.chartName request.chart ∧
          next.chartVersion = request.version.getD last.chartVersion ∧
          next.config = (if request.reuseValues then last.config else .empty).union request.values)
      (fun _ => False) := by
  obtain ⟨name, home⟩ := h.own _ _ _ found last (List.mem_of_getLast? ends)
  have latest : memory.releases.latest? request.namespace request.name = some last := by
    rw [Store.latest?, found, Option.bind_some, ends]
  have upgraded := memory.releases.upgrade_of_latest now latest
  have place : memory.releases.history? (Store.upgraded now last request).namespace
      (Store.upgraded now last request).name = some history := by
    rw [← found, ← name, ← home]
    rfl
  have pushed := memory.releases.history?_push_self (Store.upgraded now last request)
  rw [place, Option.getD_some] at pushed
  have accepts : (⟨memory.cluster, (memory.releases.push (Store.upgraded now last request)).2⟩ :
      Memory).cluster.rejectedUpdates = [] := h.accepts
  simp [OnManager.upgrade, upgraded]
  refine (remember_ends accepts given).bind ?_ fun _ => id
  intro _ after renewed
  refine ⟨h.push renewed ?_, (memory.releases.push (Store.upgraded now last request)).1, ?_, ?_, ?_,
    ?_⟩
  · rw [Store.lastRequested?_append_requested _ rfl, ← chart]
    rfl
  · rw [renewed.releases, ← name, ← home]
    exact pushed
  all_goals rfl

/-- An upgrade from the source that is on record extends the release. -/
private theorem upgrade_recorded_ends (h : InStep memory) (operation : String) {id : String}
    {revision : ReleaseRevision} {earlier : List ReleaseRevision} (named : revision.name = id)
    (sole : Sole memory.releases revision.namespace id earlier revision) {held source : ChartSource}
    (found : recorded? memory.cluster revision.namespace id = some held)
    (same : source.reference = held.reference) (values : Extensions) :
    (upgrade now operation
      ⟨revision.name, revision.namespace, source.reference, some revision.chartVersion, source.repo,
        values, true⟩ source).Ends now memory
      (fun _ after => InStep after ∧
        ∃ home earlier last next, Extended memory after id values home earlier last next)
      (fun _ => False) := by
  subst named
  have given : source.reference ≠ "" := same ▸ reference_ne_empty_of_recorded? found
  refine (upgrade_ends h given operation rfl sole.history (List.getLast?_concat ..)).mono ?_
    fun _ => id
  rintro _ after ⟨inStep, next, history, chart, version, config⟩
  obtain ⟨source', found', charts⟩ := h.recorded _ _ _ sole.history
  obtain rfl : held = source' := Option.some.inj (found.symm.trans found')
  refine ⟨inStep, revision.namespace, earlier, revision, next, sole, history, version, config, ?_⟩
  rw [charts, chart, same]

/-- To scale a release extends it by the number of replicas. -/
theorem scaleDeployment_ends (h : InStep memory) (id : String) (replicas : Int32) :
    (scaleDeployment now id replicas).Ends now memory
      (fun _ after => InStep after ∧ ∃ home earlier last next,
        Extended memory after id (SortedMap.empty.insert replicaValue (.ofInt replicas.toInt)) home
          earlier last next)
      InStep := by
  refine Program.ends_checkpoint ?_
  refine Program.ends_check h fun _ _ => Program.ends_check h fun _ _ => ?_
  refine (current_ends h "scale" id).bind ?_ fun _ same => same.symm ▸ h
  rintro revision after ⟨rfl, named, earlier, sole⟩
  refine (recordedSource_ends "scale" revision.namespace id).bind ?_ fun _ => False.elim
  rintro found after ⟨rfl, rfl⟩
  split
  · exact h
  · rename_i source held
    exact (upgrade_recorded_ends h "scale" named sole held rfl _).mono (fun _ _ good => good)
      fun _ => False.elim

/-- An update with values only: it names no package, and no chart, version or repository. -/
structure ValuesOnly (update : DeploymentUpdate) : Prop where
  package : namedPackage update.packageId = none
  chart : optionalText update.extensions "chart" = .ok none
  version : optionalText update.extensions "version" = .ok none
  repo : optionalText update.extensions "repo" = .ok none

/-- To update the values of a release extends it by them. -/
theorem updateDeployment_ends_of_valuesOnly (h : InStep memory) (id : String)
    {update : DeploymentUpdate} (only : ValuesOnly update) :
    (updateDeployment now id update).Ends now memory
      (fun _ after => InStep after ∧
        ∃ home earlier last next, Extended memory after id update.values home earlier last next)
      InStep := by
  refine Program.ends_checkpoint ?_
  rw [only.chart, only.version, only.repo]
  refine (current_ends h "update" id).bind ?_ fun _ same => same.symm ▸ h
  rintro revision after ⟨rfl, named, earlier, sole⟩
  simp only [updatedSource, only.package, bind_assoc]
  refine (recordedSource_ends "update" revision.namespace id).bind ?_ fun _ => False.elim
  rintro found after ⟨rfl, rfl⟩
  split
  · rename_i source held
    exact (upgrade_recorded_ends h "update" named sole held rfl update.values).mono
      (fun _ _ good => good) fun _ => False.elim
  · exact h

theorem updateDeployment_ends (h : InStep memory) (id : String) (update : DeploymentUpdate) :
    (updateDeployment now id update).Ends now memory (fun _ => InStep) InStep := by
  refine Program.ends_checkpoint ?_
  refine Program.ends_check h fun chart given => ?_
  refine Program.ends_check h fun version _ => Program.ends_check h fun repo _ => ?_
  refine (current_ends h "update" id).bind ?_ fun _ same => same.symm ▸ h
  rintro revision after ⟨rfl, named, earlier, sole⟩
  refine (updatedSource_ends revision id version repo given).bind ?_ fun _ same => same.symm ▸ h
  rintro ⟨source, version⟩ after ⟨nonempty, rfl⟩
  refine (upgrade_ends h nonempty "update" rfl (named.symm ▸ sole.history)
    (List.getLast?_concat ..)).mono ?_ fun _ => False.elim
  exact fun _ _ good => good.1

theorem createDeployment_ends (h : InStep memory) (request : DeploymentRequest) :
    (createDeployment now request).Ends now memory (fun _ => InStep) InStep := by
  refine Program.ends_checkpoint ?_
  refine Program.ends_check h fun _ _ => Program.ends_check h fun _ _ => ?_
  refine Program.ends_check h fun version _ => Program.ends_check h fun repo _ => ?_
  refine (requestedSource_ends request version repo).bind ?_ fun _ same => same.symm ▸ h
  rintro ⟨source, version⟩ after ⟨nonempty, rfl⟩
  let asked : InstallRequest := ⟨request.name, request.namespace, source.reference, version,
    source.repo, request.values, true⟩
  rcases held : after.releases.history? asked.namespace asked.name with _ | history
  · have installed := after.releases.install_of_none now held
    have accepts : (⟨after.cluster, (after.releases.push (Store.installed now asked)).2⟩ :
        Memory).cluster.rejectedUpdates = [] := h.accepts
    simp [asked] at installed
    simp [installed]
    refine (remember_ends accepts nonempty).bind ?_ fun _ => False.elim
    intro _ after renewed
    refine h.push renewed ?_
    rw [Store.lastRequested?_append_requested _ rfl]
    rfl
  · have refused := after.releases.install_of_some now (h.history_ne_nil held) held
    simp [asked] at refused
    simp [refused]
    exact h

theorem deleteDeployment_ends (h : InStep memory) (id : String) :
    (deleteDeployment id).Ends now memory (fun _ => InStep) InStep := by
  refine Program.ends_checkpoint ?_
  refine (locate_ends h "delete" id).bind ?_ fun _ same => same.symm ▸ h
  rintro home after ⟨rfl, earlier, last, sole⟩
  have removed := after.releases.uninstall_of_some sole.history
  simp [removed]
  refine (forgetSource_ends home id).mono ?_ fun _ => False.elim
  rintro _ gone ⟨releases, accepts, others⟩
  refine h.remove releases accepts others

/-- The reply to a rollback is an error, or else a revision of the history was repeated. -/
private theorem ends_rollback {α : Type} {home id : String} {number : Int64}
    {next : Except ReleaseError Unit → Program α} {good : α → Memory → Prop} {bad : Memory → Prop}
    (refused : ∀ error, (next (.error error)).Ends now memory good bad)
    (repeats : ∀ target ∈ (memory.releases.history? home id).getD [], ∀ again : ReleaseRevision,
      again.name = target.name → again.namespace = target.namespace → again.isRequested = false →
      (next (.ok ())).Ends now ⟨memory.cluster, (memory.releases.push again).2⟩ good bad) :
    (Program.call (.rollback home id number) next).Ends now memory good bad := by
  rcases memory.releases.rollback_cases home id number with ⟨error, run⟩ | ⟨target, mem, run⟩
  · rw [Program.ends_call, Memory.answer, run]
    exact refused error
  · rw [Program.ends_call, Memory.answer, run]
    exact repeats target mem _ rfl rfl (Store.isRequested_rollback rfl)

theorem rollbackDeployment_ends (h : InStep memory) (id : String) (revision : Int64) :
    (rollbackDeployment now id revision).Ends now memory (fun _ => InStep) InStep := by
  refine Program.ends_checkpoint ?_
  refine Program.ends_check h fun _ _ => Program.ends_check h fun _ _ => ?_
  refine (locate_ends h "rollback" id).bind ?_ fun _ same => same.symm ▸ h
  rintro home after ⟨rfl, earlier, last, sole⟩
  simp [Store.history, sole.history]
  refine Program.ends_check h fun index _ => ?_
  refine ends_rollback (fun _ => h) ?_
  intro target mem again name place repeated
  rw [sole.history, Option.getD_some] at mem
  obtain ⟨named, placed⟩ := h.own home id _ sole.history target mem
  obtain rfl : again.name = id := name.trans named
  obtain rfl : again.namespace = home := place.trans placed
  have pushed := after.releases.history?_push_self again
  rw [sole.history, Option.getD_some] at pushed
  have latest := Store.latest?_of_history? _ pushed
  simp [Store.status, latest]
  obtain ⟨source, held, charts⟩ := h.recorded _ _ _ sole.history
  refine (recordedSource_ends "rollback" again.namespace again.name).attempt.bind ?_
    fun _ => False.elim
  rintro found mid ⟨found, rfl, rfl, rfl⟩
  rw [held]
  have accepts : (⟨after.cluster, (after.releases.push again).2⟩ :
      Memory).cluster.rejectedUpdates = [] := h.accepts
  refine (remember_ends accepts (reference_ne_empty_of_recorded? held)).bind ?_ fun _ => False.elim
  intro _ renewed step
  have numbered : (after.releases.push again).1.isRequested = false := repeated
  refine h.push step ?_
  rw [sole.history, Option.getD_some, Store.lastRequested?_append_repeated _ numbered,
    Store.lastRequested?_map_supersede, Option.map_map, ← charts]
  exact congrArg (fun chart => Option.map chart _) (funext Store.supersede_chart)

/-- A change to the releases. -/
inductive Change where
  | create (request : DeploymentRequest)
  | update (id : String) (update : DeploymentUpdate)
  | scale (id : String) (replicas : Int32)
  | rollback (id : String) (revision : Int64)
  | delete (id : String)

/-- The operation that makes a change. -/
def Change.program (now : Time.Instant) : Change → Program Unit
  | .create request => do let _ ← createDeployment now request
  | .update id values => do let _ ← updateDeployment now id values
  | .scale id replicas => do let _ ← scaleDeployment now id replicas
  | .rollback id revision => do let _ ← rollbackDeployment now id revision
  | .delete id => deleteDeployment id

/-- What changes, each made at an instant of its own, leave of back ends without objects and releases.
Some of them may have failed. -/
def reached (changes : List (Time.Instant × Change)) : Memory :=
  changes.foldl (fun memory (now, change) => ((change.program now).runInMemory now memory).2) .empty

/-- A change of the values of a release and of nothing else, with the values that it sends. -/
inductive Change.Keeps : Change → String → Extensions → Prop where
  | scale (id : String) (replicas : Int32) :
    Keeps (.scale id replicas) id (SortedMap.empty.insert replicaValue (.ofInt replicas.toInt))
  | update (id : String) {update : DeploymentUpdate} (only : ValuesOnly update) :
    Keeps (.update id update) id update.values

private theorem inStep_empty : InStep .empty where
  accepts := rfl
  own := nofun
  recorded := nofun

/-- One change keeps records and histories in step, whether it succeeds or fails. -/
theorem inStep_program (h : InStep memory) (change : Change) :
    InStep ((change.program now).runInMemory now memory).2 := by
  have ends : (change.program now).Ends now memory (fun _ => InStep) InStep := by
    cases change with
    | create request =>
      exact (createDeployment_ends h request).bind (fun _ _ good => good) fun _ bad => bad
    | update id update =>
      exact (updateDeployment_ends h id update).bind (fun _ _ good => good) fun _ bad => bad
    | scale id replicas =>
      exact (scaleDeployment_ends h id replicas).bind (fun _ _ good => good.1) fun _ bad => bad
    | rollback id revision =>
      exact (rollbackDeployment_ends h id revision).bind (fun _ _ good => good) fun _ bad => bad
    | delete id => exact deleteDeployment_ends h id
  exact ends.always

/-- Records and histories are in step after all changes. -/
theorem inStep_reached (changes : List (Time.Instant × Change)) : InStep (reached changes) := by
  suffices ∀ memory, InStep memory → InStep (changes.foldl
      (fun memory (now, change) => ((change.program now).runInMemory now memory).2) memory) from
    this _ inStep_empty
  induction changes with
  | nil => exact fun _ h => h
  | cons change changes ih => exact fun memory h => ih _ (inStep_program h change.2)

/-- A change of values extends its release by them. The chart that ran is kept exactly if it is the one
of the last revision that was asked for with a chart. -/
theorem extended_of_keeps {changes : List (Time.Instant × Change)} {change : Change} {id : String}
    {values : Extensions} {after : Memory} (keeps : change.Keeps id values)
    (succeeded : (change.program now).runInMemory now (reached changes) = (.ok (), after)) :
    ∃ home earlier last next, Extended (reached changes) after id values home earlier last next ∧
      (next.chart = last.chart ↔
        (lastRequested? (earlier ++ [last])).map ReleaseRevision.chart = some last.chart) := by
  have h := inStep_reached changes
  have ends : (change.program now).Ends now (reached changes)
      (fun _ after => ∃ home earlier last next,
        Extended (reached changes) after id values home earlier last next) InStep := by
    cases keeps with
    | scale id replicas =>
      exact (scaleDeployment_ends h id replicas).bind (fun _ _ good => good.2) fun _ bad => bad
    | update id only =>
      exact (updateDeployment_ends_of_valuesOnly h id only).bind (fun _ _ good => good.2)
        fun _ bad => bad
  obtain ⟨home, earlier, last, next, extended⟩ := ends.of_ok succeeded
  refine ⟨home, earlier, last, next, extended, ?_⟩
  rw [extended.chart, Option.some.injEq]

/-- A release is made from one chart, updated to another, and rolled back. -/
def rolledBack : List (Time.Instant × Change) := [
  (⟨0, 0⟩, .create ⟨"web", "shop", none, .empty, .empty,
    .ofList [("chart", .string "stable/nginx")]⟩),
  (⟨1, 0⟩, .update "web" ⟨none, .empty, .empty, .ofList [("chart", .string "stable/apache")]⟩),
  (⟨2, 0⟩, .rollback "web" 0)]

/-- After the rollback the release can be scaled. -/
theorem extended_of_scale_rolledBack :
    ∃ home earlier last next, Extended (reached rolledBack)
        (((Change.scale "web" 2).program ⟨3, 0⟩).runInMemory ⟨3, 0⟩ (reached rolledBack)).2 "web"
        (SortedMap.empty.insert replicaValue (.ofInt (2 : Int32).toInt)) home earlier last next ∧
      (next.chart = last.chart ↔
        (lastRequested? (earlier ++ [last])).map ReleaseRevision.chart = some last.chart) := by
  have succeeded :
      ((Change.scale "web" 2).program ⟨3, 0⟩).runInMemory ⟨3, 0⟩ (reached rolledBack) =
        (.ok (), _) := rfl
  exact extended_of_keeps (.scale "web" 2) succeeded

/-- Scaled after the rollback, the release does not keep the chart that runs. -/
theorem scale_changes_chart :
    ∃ after, ((Change.scale "web" 2).program ⟨3, 0⟩).runInMemory ⟨3, 0⟩ (reached rolledBack) =
        (.ok (), after) ∧
      ((reached rolledBack).releases.latest? "shop" "web").map ReleaseRevision.chart =
        some "nginx" ∧
      (after.releases.latest? "shop" "web").map ReleaseRevision.chart = some "apache" :=
  ⟨_, rfl, rfl, rfl⟩

end OnManager

end DeploymentGateway.Release
