import DeploymentGateway.Adapter
import DeploymentGateway.Proofs.Footprint.Flux
import DeploymentGateway.Proofs.Footprint.Release
import DeploymentGateway.Proofs.Release.Address
/-!
Operations touch only what they address. Whatever comes of an operation, the objects and releases outside of what
it was asked about are as they were; and an operation that asks for what is there changes nothing at all.
-/

set_option autoImplicit false

namespace DeploymentGateway

open Cluster

/-- The id of the deployment that an action is to change or delete. -/
def Action.changes? : Action → Option String
  | .updateDeployment id _ | .deleteDeployment id | .scaleDeployment id _ | .rollbackDeployment id _ =>
    some id
  | _ => none

/-- The release that an action addresses: a new one by its namespace and name, and another one by its name, if
that is used in one namespace only. -/
inductive Settings.AddressesRelease : Settings → Release.Store → Action → String → String → Prop where
  | new {binary : String} {context : Option String} {store : Release.Store}
    {request : DeploymentRequest} :
    AddressesRelease (.helm binary context) store (.createDeployment request) request.namespace
      request.name
  | found {binary : String} {context : Option String} {store : Release.Store} {action : Action}
    {id home : String} (changes : action.changes? = some id) (there : store.history? home id ≠ none)
    (alone : ∀ other, store.history? other id ≠ none → other = home) :
    AddressesRelease (.helm binary context) store action home id

/-- The objects that an action addresses, by the state that it starts from. -/
inductive Settings.Addresses : Settings → Memory → Action → ObjectKey → Prop where
  | newApplication {home : String} {memory : Memory} {request : DeploymentRequest} :
    Addresses (.argocd home) memory (.createDeployment request)
      (Store.key Application.kind home request.name)
  | application {home : String} {memory : Memory} {action : Action} {id : String}
    (changes : action.changes? = some id) :
    Addresses (.argocd home) memory action (Store.key Application.kind home id)
  | newComposite {kind : ResourceKind} {memory : Memory} {request : DeploymentRequest} :
    Addresses (.crossplane kind) memory (.createDeployment request) (Store.key kind "" request.name)
  | composite {kind : ResourceKind} {memory : Memory} {action : Action} {id : String}
    (changes : action.changes? = some id) :
    Addresses (.crossplane kind) memory action (Store.key kind "" id)
  | newConfiguration {kind : ResourceKind} {memory : Memory} {upload : PackageUpload} :
    Addresses (.crossplane kind) memory (.uploadPackage upload)
      (Store.key Composite.configurationKind "" upload.name)
  | configuration {kind : ResourceKind} {memory : Memory} {configuration : Json}
    (listed : configuration ∈ memory.cluster.list Composite.configurationKind none none) :
    Addresses (.crossplane kind) memory (.deletePackage (Composite.packageId configuration))
      (Store.key Composite.configurationKind "" (nameOf configuration))
  | newReconciled {home : String} {memory : Memory} {request : DeploymentRequest} {kind : Flux.FluxKind}
    (asked : Flux.requestedKind request = .ok kind) :
    Addresses (.flux home) memory (.createDeployment request)
      (Store.key kind.resource home request.name)
  | newSource {home : String} {memory : Memory} {request : DeploymentRequest} {name : String}
    {repository : Option Json} {kustomization : Json}
    (asked : Flux.requestedKind request = .ok .kustomization)
    (source : Flux.newSource home request = .ok (name, repository))
    (built : Flux.buildKustomization home request name = .ok kustomization) :
    Addresses (.flux home) memory (.createDeployment request)
      (Flux.OnCluster.repositoryKey kustomization)
  | reconciled {home : String} {memory : Memory} {action : Action} {id : String} {kind : Flux.FluxKind}
    {object : Json} (changes : action.changes? = some id)
    (addressed : Flux.Addressed home id memory.cluster.objects kind object) :
    Addresses (.flux home) memory action (Store.key kind.resource home (nameOf object))
  | source {home : String} {memory : Memory} {action : Action} {id : String} {object : Json}
    (takes : action = .deleteDeployment id ∨ ∃ revision, action = .rollbackDeployment id revision)
    (addressed : Flux.Addressed home id memory.cluster.objects .kustomization object)
    (repository : (Flux.sourceRef .kustomization object).kind = Flux.gitRepositoryKind.kind) :
    Addresses (.flux home) memory action (Flux.OnCluster.repositoryKey object)
  | record {settings : Settings} {memory : Memory} {action : Action} {home name : String}
    (release : settings.AddressesRelease memory.releases action home name) :
    Addresses settings memory action (Release.recordKey home name)

/-- Nothing has changed but what an action addresses. -/
structure Settings.OnlyAddressed (settings : Settings) (action : Action) (memory after : Memory) :
    Prop where
  objects : ChangesOnly (settings.Addresses memory action) memory.cluster.objects after.cluster.objects
  releases : ∀ home name, ¬ settings.AddressesRelease memory.releases action home name →
    after.releases.history? home name = memory.releases.history? home name

section

variable {settings : Settings} {now : Time.Instant} {action : Action} {memory after : Memory}

/-- For actions that keep to the objects of the cluster. -/
private theorem onlyAddressed_of_confined {p : Program action.Result} {outcome : Outcome action.Result}
    (run : p.Runs now memory outcome after) (spares : p.SparesReleases)
    (confined : p.Confined now (settings.Addresses memory action) memory.cluster.objects) :
    settings.OnlyAddressed action memory after where
  objects := confined memory outcome after rfl run
  releases home name _ := by rw [spares.releases_of_runs run]

private theorem onlyAddressed_of_readOnly {p : Program action.Result} {outcome : Outcome action.Result}
    (run : p.Runs now memory outcome after) (reads : p.ReadOnly) :
    settings.OnlyAddressed action memory after :=
  onlyAddressed_of_confined run reads.sparesReleases (reads.confined now _ _)

section

variable (named : Named memory.cluster.objects)

include named

private theorem Application.OnCluster.confined_action (home : String) (now : Time.Instant)
    (action : Action) :
    (action.program (operations home now)).Confined now
      ((Settings.argocd home).Addresses memory action) memory.cluster.objects := by
  by_cases reads : action.reads = true
  · exact (readOnly_action home now reads).confined now _ _
  cases action with
  | uploadPackage upload =>
    have reads : (uploadPackage upload).ReadOnly := by simp [uploadPackage]
    exact reads.confined now _ _
  | deletePackage id =>
    have reads : (deletePackage id).ReadOnly := by simp [deletePackage]
    exact reads.confined now _ _
  | createDeployment request => exact confined_createDeployment .newApplication
  | updateDeployment id update => exact confined_updateDeployment named (.application rfl) update
  | deleteDeployment id => exact confined_deleteDeployment (.application rfl)
  | scaleDeployment id replicas => exact confined_scaleDeployment named (.application rfl) replicas
  | rollbackDeployment id revision =>
    exact confined_rollbackDeployment named (.application rfl) revision
  | _ => exact absurd rfl reads

theorem Composite.OnCluster.confined_action (kind : ResourceKind) (now : Time.Instant)
    (action : Action) :
    (action.program (operations kind now)).Confined now
      ((Settings.crossplane kind).Addresses memory action) memory.cluster.objects := by
  by_cases reads : action.reads = true
  · exact (readOnly_action kind now reads).confined now _ _
  cases action with
  | uploadPackage upload => exact confined_uploadPackage .newConfiguration
  | deletePackage id =>
    refine confined_deletePackage fun configuration listed same => ?_
    subst same
    exact .configuration listed
  | createDeployment request => exact confined_createDeployment .newComposite
  | updateDeployment id update => exact confined_updateDeployment named (.composite rfl) update
  | deleteDeployment id => exact confined_deleteDeployment (.composite rfl)
  | scaleDeployment id replicas =>
    have reads : (scaleDeployment id replicas).ReadOnly := by simp [scaleDeployment]
    exact reads.confined now _ _
  | rollbackDeployment id revision =>
    have reads : (rollbackDeployment id revision).ReadOnly := by simp [rollbackDeployment]
    exact reads.confined now _ _
  | _ => exact absurd rfl reads

private theorem Flux.OnCluster.confined_action (home : String) (now : Time.Instant) (action : Action) :
    (action.program (operations home now)).Confined now
      ((Settings.flux home).Addresses memory action) memory.cluster.objects := by
  by_cases reads : action.reads = true
  · exact (readOnly_action home now reads).confined now _ _
  cases action with
  | uploadPackage upload =>
    have reads : (uploadPackage upload).ReadOnly := by simp [uploadPackage]
    exact reads.confined now _ _
  | deletePackage id =>
    have reads : (deletePackage id).ReadOnly := by simp [deletePackage]
    exact reads.confined now _ _
  | createDeployment request =>
    exact confined_createDeployment (fun _ asked => .newReconciled asked)
      fun _ _ _ asked source built => .newSource asked source built
  | updateDeployment id update =>
    exact confined_updateDeployment (fun _ _ addressed => .reconciled rfl addressed) named update
  | deleteDeployment id =>
    exact confined_deleteDeployment (fun _ _ addressed => .reconciled rfl addressed)
      fun _ addressed repository => .source (.inl rfl) addressed repository
  | scaleDeployment id replicas =>
    exact confined_scaleDeployment (fun _ _ addressed => .reconciled rfl addressed) named replicas
  | rollbackDeployment id revision =>
    exact confined_rollbackDeployment (fun _ _ addressed => .reconciled rfl addressed)
      (fun _ addressed repository => .source (.inr ⟨revision, rfl⟩) addressed repository) named revision
  | _ => exact absurd rfl reads

end

/-- For actions that keep to one release and its record. -/
private theorem onlyAddressed_of_onlyRelease {home name : String}
    (addressed : settings.AddressesRelease memory.releases action home name)
    (only : Release.OnlyRelease home name (Aspect.both.read memory) (Aspect.both.read after)) :
    settings.OnlyAddressed action memory after where
  objects := by
    refine only.objects.mono ?_
    rintro _ rfl
    exact .record addressed
  releases home' name' away := only.releases home' name' fun here => by
    obtain ⟨rfl, rfl⟩ := here
    exact away addressed

private theorem onlyAddressed_of_eq (same : Aspect.both.read after = Aspect.both.read memory) :
    settings.OnlyAddressed action memory after where
  objects key _ := congrArg (fun s => s.1.get? key) same
  releases home name _ := congrArg (fun s => s.2.history? home name) same

namespace Release.OnManager

variable {binary : String} {context : Option String} {outcome : Outcome action.Result}

private theorem onlyAddressed_of_keepsTo (filed : memory.releases.Filed) {id : String}
    (changes : action.changes? = some id)
    (keeps : KeepsTo now id (Aspect.both.read memory) (action.program (operations now)))
    (run : (action.program (operations now)).Runs now memory outcome after) :
    (Settings.helm binary context).OnlyAddressed action memory after := by
  rcases keeps memory outcome after rfl (Program.runs_iff_runsWhere.mp run) with
    same | ⟨home, listed, only⟩
  · exact onlyAddressed_of_eq same
  · obtain ⟨there, alone⟩ := filed.namespaces_eq_singleton_iff.mp listed
    exact onlyAddressed_of_onlyRelease (.found changes there alone) only

private theorem onlyAddressed_action (filed : memory.releases.Filed)
    (run : (action.program (operations now)).Runs now memory outcome after) :
    (Settings.helm binary context).OnlyAddressed action memory after := by
  by_cases reads : action.reads = true
  · exact onlyAddressed_of_readOnly run (readOnly_action now reads)
  cases action with
  | uploadPackage upload => exact onlyAddressed_of_readOnly run (by simp [operations, uploadPackage])
  | deletePackage id => exact onlyAddressed_of_readOnly run (by simp [operations, deletePackage])
  | createDeployment request =>
    have only := keeps_createDeployment request memory outcome after rfl
      (Program.runs_iff_runsWhere.mp run)
    exact onlyAddressed_of_onlyRelease .new only
  | updateDeployment id update =>
    exact onlyAddressed_of_keepsTo filed rfl (keepsTo_updateDeployment filed update) run
  | deleteDeployment id => exact onlyAddressed_of_keepsTo filed rfl keepsTo_deleteDeployment run
  | scaleDeployment id replicas =>
    exact onlyAddressed_of_keepsTo filed rfl (keepsTo_scaleDeployment filed replicas) run
  | rollbackDeployment id revision =>
    exact onlyAddressed_of_keepsTo filed rfl (keepsTo_rollbackDeployment filed revision) run
  | _ => exact absurd rfl reads

private theorem isRefused_action (filed : memory.releases.Filed) {id home home' : String}
    (changes : action.changes? = some id) (apart : home ≠ home')
    (there : memory.releases.history? home id ≠ none)
    (there' : memory.releases.history? home' id ≠ none) :
    IsRefused now memory (action.program (operations now)) := by
  cases action with
  | updateDeployment _ update =>
    cases changes
    exact isRefused_updateDeployment filed apart there there' update
  | deleteDeployment _ =>
    cases changes
    exact isRefused_deleteDeployment filed apart there there'
  | scaleDeployment _ replicas =>
    cases changes
    exact isRefused_scaleDeployment filed apart there there' replicas
  | rollbackDeployment _ revision =>
    cases changes
    exact isRefused_rollbackDeployment filed apart there there' revision
  | _ => cases changes

end Release.OnManager

/-- Whatever comes of an operation, and whenever its caller gives up, it leaves all objects and releases but
those that it addresses. If it asks for what is there, it leaves everything. And to change a release by a name
that is used in several namespaces is refused, and changes nothing either. -/
theorem onlyAddressed_of_runs (settings : Settings) (inMemory : settings.kind ≠ .argocdRest)
    (reachable : memory.cluster.Reachable) (filed : memory.releases.Filed) (now : Time.Instant)
    (action : Action) :
    (∀ outcome after, (action.program (settings.operations now)).Runs now memory outcome after →
      settings.OnlyAddressed action memory after ∧
      (action.reads = true → ∃ rejectedUpdates, after =
        { memory with cluster := { memory.cluster with rejectedUpdates } })) ∧
    (settings.kind = .helm → ∀ id home home', action.changes? = some id → home ≠ home' →
      memory.releases.history? home id ≠ none → memory.releases.history? home' id ≠ none →
      ∃ failure, failure.kind = .validation ∧
        (action.program (settings.operations now)).runInMemory now memory =
          (.error failure, memory)) := by
  have named := reachable.named
  cases settings with
  | argocd home =>
    refine ⟨fun outcome after run => ⟨?_, fun reads => ?_⟩, nofun⟩
    · exact onlyAddressed_of_confined run (Application.OnCluster.sparesReleases_action home now action)
        (Application.OnCluster.confined_action named home now action)
    · exact ⟨_, (Application.OnCluster.readOnly_action home now reads).memory_of_runs run⟩
  | argocdRest address token home seconds => exact absurd rfl inMemory
  | crossplane kind =>
    refine ⟨fun outcome after run => ⟨?_, fun reads => ?_⟩, nofun⟩
    · exact onlyAddressed_of_confined run (Composite.OnCluster.sparesReleases_action kind now action)
        (Composite.OnCluster.confined_action named kind now action)
    · exact ⟨_, (Composite.OnCluster.readOnly_action kind now reads).memory_of_runs run⟩
  | flux home =>
    refine ⟨fun outcome after run => ⟨?_, fun reads => ?_⟩, nofun⟩
    · exact onlyAddressed_of_confined run (Flux.sparesReleases_action home now action)
        (Flux.OnCluster.confined_action named home now action)
    · exact ⟨_, (Flux.OnCluster.readOnly_action home now reads).memory_of_runs run⟩
  | helm binary context =>
    refine ⟨fun outcome after run => ⟨?_, fun reads => ?_⟩, fun _ id home home' changes apart => ?_⟩
    · exact Release.OnManager.onlyAddressed_action filed run
    · exact ⟨_, (Release.OnManager.readOnly_action now reads).memory_of_runs run⟩
    · exact Release.OnManager.isRefused_action filed changes apart

end

/-- One of two releases with the same name cannot be deleted by that. -/
theorem onlyAddressed_of_runs_double :
    (Settings.helm "helm" none).kind ≠ .argocdRest ∧ Release.OnManager.double.cluster.Reachable ∧
    Release.OnManager.double.releases.Filed ∧
    ∃ failure, failure.kind = .validation ∧
      (Release.OnManager.deleteDeployment "web").runInMemory ⟨1, 0⟩ Release.OnManager.double =
        (.error failure, Release.OnManager.double) := by
  have reached : Reached Release.OnManager.operations Release.OnManager.double :=
    (Reached.empty.runInMemory ⟨0, 0⟩ (.createDeployment (Release.OnManager.requestIn "prod"))).runInMemory
      ⟨0, 0⟩ (.createDeployment (Release.OnManager.requestIn "staging"))
  have filed := (Release.dated_of_reached reached).toFiled
  have prod : Release.OnManager.double.releases.history? "prod" "web" ≠ none := by
    rw [Option.ne_none_iff_isSome]
    decide +kernel
  have staging : Release.OnManager.double.releases.history? "staging" "web" ≠ none := by
    rw [Option.ne_none_iff_isSome]
    decide +kernel
  have inMemory : (Settings.helm "helm" none).kind ≠ .argocdRest := by decide
  refine ⟨inMemory, reached.reachable, filed, ?_⟩
  exact (onlyAddressed_of_runs (.helm "helm" none) inMemory reached.reachable filed ⟨1, 0⟩
    (.deleteDeployment "web")).2 rfl "web" "prod" "staging" rfl (by decide) prod staging

end DeploymentGateway
