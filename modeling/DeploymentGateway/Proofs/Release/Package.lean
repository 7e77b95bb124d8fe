import DeploymentGateway.Proofs.Cluster.Selector
import DeploymentGateway.Proofs.Release.Address
import DeploymentGateway.Proofs.Release.Step
/-!
Which package a release is made from when the caller names it by its id. The id goes into a selector for
records, and the record that is found says which chart to install in which version; its label is not looked
at again. So the release is of the package asked for if the id is one term of the selector, and if the
record has the label of the package that it leads to.
-/

set_option autoImplicit false

namespace DeploymentGateway

/-- No id of a package has a comma in it. -/
theorem PackageId.comma_notMem_derive (type : PackageType) (url path : String) :
    ',' ∉ (derive type url path).toList := by
  have digit (value : Nat) (small : value < 16) : Text.hexDigit false value ≠ ',' := by
    revert small
    decide +revert
  intro mem
  simp only [derive, fingerprint, String.toList_append, String.toList_ofList, List.mem_append,
    List.mem_flatMap, List.mem_cons, List.not_mem_nil, or_false] at mem
  rcases mem with (mark | hyphen) | ⟨octet, -, high | low⟩
  · cases type <;> exact absurd mark (by decide)
  · exact absurd hyphen (by decide)
  · exact digit _ (by have := octet.toNat_lt; omega) high.symm
  · exact digit _ (Nat.mod_lt _ (by decide)) low.symm

namespace Release

open Cluster Rules ChartSource

/-- The id of the package that a record leads to. -/
def recordedPackage (record : Json) : String :=
  PackageId.derive .helmChart (Store.chartName (record.stringAt ["data", "chart"]))
    (record.stringAt ["data", "version"])

/-- A record has the label of the package that it leads to. -/
def Faithful (record : Json) : Prop :=
  (labelsOf record).get? packageLabel = some (recordedPackage record)

/-- A record is kept in the cluster. -/
def Kept (objects : Objects) (record : Json) : Prop :=
  ∃ key, objects.get? key = some record ∧ key.plural = recordKind.plural

theorem faithful_of_describes {record : Json} {source : ChartSource} {revision : ReleaseRevision}
    (described : Describes record source revision)
    (chart : revision.chart = Store.chartName source.reference) : Faithful record := by
  rw [Faithful, recordedPackage, described.label, described.chart, described.version, packageId, chart]

/-- The release was returned to a revision of another chart than the one on record. -/
def Strays (before after : Objects × Store) (id : String) : Prop :=
  ∃ home record restored, before.1.get? (recordKey home id) = some record ∧
    after.2.history? home id ≠ before.2.history? home id ∧ after.2.latest? home id = some restored ∧
    restored.chart ≠ Store.chartName (record.stringAt ["data", "chart"])

/-- All objects are records with the label of the package that they lead to. -/
def AllFaithful (objects : Objects) : Prop :=
  ∀ key record, objects.get? key = some record → Faithful record

namespace AllFaithful

variable {objects after : Objects} {store : Store} (h : AllFaithful objects)

include h

theorem insert (key : ObjectKey) {record : Json} (faithful : Faithful record) :
    AllFaithful (objects.insert key record) := by
  intro other found stored
  by_cases same : other = key
  · subst same
    rw [SortedMap.get?_insert_self] at stored
    cases stored
    exact faithful
  · rw [SortedMap.get?_insert_of_ne _ same] at stored
    exact h other found stored

theorem remembers {gaveUp : Prop} {revision : ReleaseRevision} {source : ChartSource}
    (chart : revision.chart = Store.chartName source.reference)
    (remembers : Remembers gaveUp objects revision source after) : AllFaithful after := by
  cases remembers with
  | lapsed _ => exact h
  | written described => exact h.insert _ (faithful_of_describes described chart)

/-- Each step keeps the labels right, unless it returns a release to another chart than the one on record. -/
theorem step {mayGiveUp : Objects × Store → Prop} {returns : String → Prop} {now : Time.Instant}
    {s : Objects × Store} (filed : store.Filed)
    (step : Step mayGiveUp returns now (objects, store) s)
    (straight : ∀ id, returns id → ¬ Strays (objects, store) s id) : AllFaithful s.1 := by
  cases step with
  | unchanged => exact h
  | installed _ chart _ remembers => exact h.remembers (congrArg Store.chartName chart) remembers
  | upgraded _ chart _ remembers => exact h.remembers (congrArg Store.chartName chart) remembers
  | @repeated _ after _ home id number target restored asked mem latest remembers =>
    rcases remembers with rfl | ⟨record, source, present, held, remembers⟩
    · exact h
    refine h.remembers ?_ remembers
    rw [reference_of_ofRecord? held]
    by_contra other
    refine straight id asked ⟨home, record, restored, present, fun same => ?_, latest, other⟩
    -- The history has become longer.
    rcases found : store.history? home id with _ | history
    · simp [found] at mem
    rw [found, Option.getD_some] at mem
    obtain ⟨rfl, rfl⟩ := filed.own home id history found target mem
    have pushed := store.history?_push_self (Store.repeated target number)
    have longer := congrArg (Option.map List.length) (pushed.symm.trans same)
    change _ = (store.history? target.namespace target.name).map _ at longer
    simp [Store.repeated, found] at longer
  | uninstalled _ forgets =>
    rcases forgets with rfl | ⟨rfl, -⟩
    · exact fun key record stored => h key record (SortedMap.get?_of_get?_erase stored)
    · exact h

end AllFaithful

namespace OnManager

/-- The states that operations lead to of which none returns a release to another chart than the one on
record. -/
inductive Straight : Memory → Prop where
  | empty : Straight .empty
  | run {memory after : Memory} (now : Time.Instant) (action : Action)
    {outcome : Outcome action.Result} : Straight memory →
      (action.program (operations now)).Runs now memory outcome after →
      (∀ id revision, action = .rollbackDeployment id revision →
        ¬ Strays (memory.cluster.objects, memory.releases) (after.cluster.objects, after.releases) id) →
      Straight after

theorem Straight.reached {memory : Memory} (straight : Straight memory) : Reached operations memory := by
  induction straight with
  | empty => exact .empty
  | run now action _ run _ reached => exact .run now action reached run

theorem Straight.allFaithful {memory : Memory} (straight : Straight memory) :
    AllFaithful memory.cluster.objects := by
  induction straight with
  | empty => exact nofun
  | @run memory after now action outcome straight run keeps h =>
    have filed := (dated_of_reached straight.reached).toFiled
    have step := (steps_action now (fun _ => True) (memory.cluster.objects, memory.releases)
      action).ensures memory outcome after rfl run
    refine h.step filed step ?_
    rintro id ⟨revision, asked⟩
    exact keeps id revision asked

/-- A record that a package id leads to is kept. If the id is one term of a selector it is its label. -/
theorem kept_of_recordOf? {objects : Objects} {package : String} {record : Json}
    (found : recordOf? objects package = some record) :
    Kept objects record ∧
      (',' ∉ package.toList → (labelsOf record).get? packageLabel = some package) := by
  obtain ⟨kept, matched⟩ := Cluster.Store.mem_list_iff.mp (List.mem_of_find?_eq_some found)
  refine ⟨kept, fun single => ?_⟩
  have plain : ∀ c ∈ packageLabel.toList, c ≠ '=' ∧ c ≠ ',' := by simp [packageLabel]
  exact (Cluster.Store.selectorMatches_label plain single record).mp matched

/-- A request asks for a package by its id, and for no chart or version. -/
structure AsksFor (request : DeploymentRequest) (package : String) : Prop where
  package : request.packageId = some package
  chart : optionalText request.extensions "chart" = .ok none
  version : optionalText request.extensions "version" = .ok none

variable {now : Time.Instant} {request : DeploymentRequest} {package : String}

/-- A release that such a request makes is of the package that the record leads to which its id leads to. -/
theorem recordOf?_of_creation {mayGiveUp : Objects × Store → Prop} {objects : Objects} {store : Store}
    {deployment : Deployment} {after : Objects × Store} (asks : AsksFor request package)
    (creation : Creation mayGiveUp now objects store request (.ok deployment) after) :
    ∃ record, recordOf? objects package = some record ∧
      deployment.packageId = recordedPackage record := by
  cases creation with
  | @made after install source requests free remembers =>
    obtain ⟨package', record, version, named, leads, reference, versioned, installs⟩ :=
      requests.package asks.chart
    rw [namedPackage, asks.package, Option.filter_eq_some_iff] at named
    obtain rfl : package = package' := Option.some.inj named.1
    rw [asks.version] at versioned
    cases versioned
    refine ⟨record, leads, ?_⟩
    change PackageId.derive _ (Store.chartName install.chart)
      (install.version.getD Store.defaultChartVersion) = _
    rw [recordedPackage, installs, requests.chart, reference]
    rfl

private theorem creation_of_runs {memory after : Memory} {outcome : Outcome Deployment}
    (run : (createDeployment now request).Runs now memory outcome after) :
    Creation (fun _ => True) now memory.cluster.objects memory.releases request outcome
      (after.cluster.objects, after.releases) :=
  (createDeployment_where request).ensures memory outcome after rfl run

/-- A release that was asked for by a package id is of the package that some record leads to. It is the one
asked for just if there is no comma in the id and the record has the right label, and it has that as long as
no release was returned to another chart than the one on record. If there is no comma in the id and it is the
label of no record, nothing is made. -/
theorem package_of_createDeployment (asks : AsksFor request package) (memory : Memory) :
    (∀ deployment after, (createDeployment now request).Runs now memory (.ok deployment) after →
      ∃ record, Kept memory.cluster.objects record ∧
        deployment.packageId = recordedPackage record ∧
        (deployment.packageId = package ↔ ',' ∉ package.toList ∧ Faithful record) ∧
        (Straight memory → Faithful record)) ∧
    (',' ∉ package.toList →
      (∀ record, Kept memory.cluster.objects record →
        (labelsOf record).get? packageLabel ≠ some package) →
      ∀ outcome after, (createDeployment now request).Runs now memory outcome after →
        (∃ failure, outcome = .error failure) ∧
          after.cluster.objects = memory.cluster.objects ∧ after.releases = memory.releases) := by
  constructor
  · intro deployment after run
    obtain ⟨record, leads, made⟩ := recordOf?_of_creation asks (creation_of_runs run)
    obtain ⟨kept, labelled⟩ := kept_of_recordOf? leads
    refine ⟨record, kept, made, ⟨?_, ?_⟩, fun straight => ?_⟩
    · intro same
      have single : ',' ∉ package.toList := by
        rw [← same, made]
        exact PackageId.comma_notMem_derive _ _ _
      exact ⟨single, by rw [Faithful, labelled single, ← made, same]⟩
    · rintro ⟨single, faithful⟩
      rw [made]
      exact Option.some.inj (faithful.symm.trans (labelled single))
    · obtain ⟨key, stored, -⟩ := kept
      exact straight.allFaithful key record stored
  · intro single unknown outcome after run
    have creation := creation_of_runs run
    rcases outcome with failure | deployment
    · obtain ⟨objects, releases⟩ := Prod.mk.inj creation.unchanged
      exact ⟨⟨failure, rfl⟩, objects, releases⟩
    · obtain ⟨record, leads, -⟩ := recordOf?_of_creation asks creation
      obtain ⟨kept, labelled⟩ := kept_of_recordOf? leads
      exact absurd (labelled single) (unknown record kept)

/-- A request for a second release that names nothing but a package. -/
def asking (package : String) : DeploymentRequest where
  name := "api"
  «namespace» := "prod"
  packageId := some package
  values := .empty
  labels := .empty
  extensions := .empty

private theorem asksFor_asking (package : String) : AsksFor (asking package) package :=
  ⟨rfl, rfl, rfl⟩

/-- The package that the first release is made from. -/
def firstPackage : String :=
  PackageId.derive .helmChart "nginx" "1.0.0"

private theorem straight_single : Straight single :=
  .run ⟨0, 0⟩ (.createDeployment (requestIn "prod")) .empty (Program.runs_runInMemory _ _) nofun

private theorem runs_asking (package : String) (memory : Memory)
    (succeeds : ((createDeployment ⟨1, 0⟩ (asking package)).runInMemory ⟨1, 0⟩ memory).1.isOk = true) :
    ∃ deployment after,
      (createDeployment ⟨1, 0⟩ (asking package)).Runs ⟨1, 0⟩ memory (.ok deployment) after := by
  have run : (createDeployment ⟨1, 0⟩ (asking package)).Runs ⟨1, 0⟩ memory _ _ :=
    Program.runs_runInMemory _ memory
  rcases ended : ((createDeployment ⟨1, 0⟩ (asking package)).runInMemory ⟨1, 0⟩ memory).1
    with failure | deployment
  · rw [ended] at succeeds
    cases succeeds
  · rw [ended] at run
    exact ⟨deployment, _, run⟩

/-- The second release is of the package of the first. -/
theorem package_of_createDeployment_first :
    ∃ deployment after, (createDeployment ⟨1, 0⟩ (asking firstPackage)).Runs ⟨1, 0⟩ single
      (.ok deployment) after ∧ deployment.packageId = firstPackage := by
  obtain ⟨deployment, after, run⟩ := runs_asking firstPackage single (by decide +kernel)
  obtain ⟨record, -, -, made, faithful⟩ :=
    (package_of_createDeployment (asksFor_asking firstPackage) single).1 deployment after run
  exact ⟨deployment, after, run,
    made.mpr ⟨PackageId.comma_notMem_derive _ _ _, faithful straight_single⟩⟩

/-- The memory after the first release was updated to another chart and returned to its own. -/
def returned : Memory :=
  let other : DeploymentUpdate := ⟨none, .empty, .empty, .ofList [("chart", .string "stable/apache")]⟩
  let updated := ((updateDeployment ⟨0, 0⟩ "web" other).runInMemory ⟨0, 0⟩ single).2
  ((rollbackDeployment ⟨0, 0⟩ "web" 0).runInMemory ⟨0, 0⟩ updated).2

private theorem reached_returned : Reached operations returned :=
  (straight_single.reached.runInMemory ⟨0, 0⟩ (.updateDeployment "web" _)).runInMemory ⟨0, 0⟩
    (.rollbackDeployment "web" 0)

/-- An id with a comma at its end is the label of no record, and still a release is made of another package.
After a return to another chart, so is one of a package other than the one that is asked for and that runs. -/
theorem createDeployment_makes_other_package :
    (Reached operations single ∧ AsksFor (asking (firstPackage ++ ",")) (firstPackage ++ ",") ∧
      (∀ record, Kept single.cluster.objects record →
        (labelsOf record).get? packageLabel ≠ some (firstPackage ++ ",")) ∧
      ∃ deployment after, (createDeployment ⟨1, 0⟩ (asking (firstPackage ++ ","))).Runs ⟨1, 0⟩ single
        (.ok deployment) after ∧ deployment.packageId ≠ firstPackage ++ ",") ∧
    Reached operations returned ∧ AsksFor (asking firstPackage) firstPackage ∧
      ∃ deployment after, (createDeployment ⟨1, 0⟩ (asking firstPackage)).Runs ⟨1, 0⟩ returned
        (.ok deployment) after ∧ deployment.packageId ≠ firstPackage := by
  have ended (record : Json) : recordedPackage record ≠ firstPackage ++ "," := by
    intro same
    apply PackageId.comma_notMem_derive .helmChart (Store.chartName (record.stringAt ["data", "chart"]))
      (record.stringAt ["data", "version"])
    rw [← recordedPackage, same]
    simp
  refine ⟨⟨straight_single.reached, asksFor_asking _, ?_, ?_⟩, reached_returned, asksFor_asking _, ?_⟩
  · rintro record ⟨key, stored, -⟩ labelled
    have faithful := straight_single.allFaithful key record stored
    exact ended record (Option.some.inj (faithful.symm.trans labelled))
  · obtain ⟨deployment, after, run⟩ := runs_asking (firstPackage ++ ",") single (by decide +kernel)
    obtain ⟨record, -, made⟩ := recordOf?_of_creation (asksFor_asking _) (creation_of_runs run)
    exact ⟨deployment, after, run, by rw [made]; exact ended record⟩
  · obtain ⟨deployment, after, run⟩ := runs_asking firstPackage returned (by decide +kernel)
    obtain ⟨record, leads, made⟩ := recordOf?_of_creation (asksFor_asking _) (creation_of_runs run)
    refine ⟨deployment, after, run, fun same => ?_⟩
    have other : (recordOf? returned.cluster.objects firstPackage).map recordedPackage ≠
        some firstPackage := by decide +kernel
    rw [leads, Option.map_some, ← made, same] at other
    exact other rfl

end OnManager

end Release

end DeploymentGateway
