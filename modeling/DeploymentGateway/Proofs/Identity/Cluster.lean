import DeploymentGateway.Proofs.Flux.Deletion
import DeploymentGateway.Proofs.Identity.Object
import DeploymentGateway.Proofs.Rewrite.Places
/-!
What operations on objects of the cluster leave where they found their object: one with the same identity,
which is the deployment that they tell of. So the next one to ask for the id finds that deployment.
-/

set_option autoImplicit false

namespace DeploymentGateway

open Cluster

/-- Every object has the name that it is stored under. -/
def Named (objects : Objects) : Prop :=
  ∀ key object, objects.get? key = some object → nameOf object = key.name

theorem Cluster.Store.Reachable.named {store : Store} (reachable : store.Reachable) :
    Named store.objects :=
  fun _ _ stored => reachable.nameOf_eq stored

/-- The object under a key has been replaced by one with the same identity, which is the deployment told
of. Of the other objects only repositories may have changed. -/
structure Altered (key : ObjectKey) (read : Json → Deployment) (objects after : Objects)
    (altered : Deployment) : Prop where
  replaced : ∃ object new, objects.get? key = some object ∧ after.get? key = some new ∧
    SameIdentity new object ∧ altered = read new
  elsewhere : ∀ other, other ≠ key → other.plural ≠ Flux.gitRepositoryKind.plural →
    after.get? other = objects.get? other

/-- Two states of the cluster differ in repositories at most. -/
def SameButRepositories (objects after : Objects) : Prop :=
  ∀ key, key.plural ≠ Flux.gitRepositoryKind.plural → after.get? key = objects.get? key

/-- Changes of repositories before an object is replaced do not count. -/
theorem Altered.of_sameButRepositories {key : ObjectKey} {read : Json → Deployment}
    {objects between after : Objects} {altered : Deployment}
    (same : SameButRepositories objects between)
    (notRepository : key.plural ≠ Flux.gitRepositoryKind.plural)
    (h : Altered key read between after altered) : Altered key read objects after altered where
  replaced := by
    obtain ⟨object, new, stored, placed, replaced⟩ := h.replaced
    exact ⟨object, new, (same key notRepository).symm.trans stored, placed, replaced⟩
  elsewhere other ne kind := (h.elsewhere other ne kind).trans (same other kind)

variable {now : Time.Instant} {objects : Objects}

theorem Rewrite.ensures_altered {rewrite : Rewrite} {object : Json} {name : String}
    (stored : objects.get? (Store.key rewrite.kind rewrite.namespace name) = some object)
    (named : nameOf object = name)
    (same : ∀ changed, rewrite.change object = .ok changed → SameIdentity changed object) :
    (rewrite.program object).Ensures .objects now objects fun outcome after =>
      ∀ altered, outcome = .ok altered →
        Altered (Store.key rewrite.kind rewrite.namespace name) rewrite.result objects after
          altered := by
  refine Rewrite.ensures_program (fun _ => nofun) fun store changed current new run _ placed => ?_
  have kept := same changed run
  have written : SameIdentity new object := by
    rw [placed]
    exact ((sameIdentity_written _ _).trans (sameIdentity_succeeding _ _)).trans kept
  rw [kept.nameOf_eq, named]
  rintro altered ⟨⟩
  exact ⟨⟨object, new, stored, SortedMap.get?_insert_self _ _ _, written, rfl⟩,
    fun other ne _ => SortedMap.get?_insert_of_ne _ ne _⟩

namespace Application.OnCluster

variable {home id : String}

/-- An id finds the application of that name. -/
theorem getDeployment_eq_iff {memory : Memory} {deployment : Deployment} :
    (getDeployment home now id).runInMemory now memory = (.ok deployment, memory) ↔
      Rules.checkName "id" id = .ok () ∧ ∃ app,
        memory.cluster.objects.get? (Store.key kind home id) = some app ∧
          deployment = toDeployment now app := by
  rcases checked : Rules.checkName "id" id with failure | ⟨⟩
  · simp [getDeployment, application, checked]
  rcases found : memory.cluster.object? kind home id with _ | app
  · rw [Store.object?] at found
    simp [getDeployment, application, checked, Store.get, Store.object?, found]
  · rw [Store.object?] at found
    simp [getDeployment, application, checked, Store.get, Store.object?, found, eq_comm]

/-- An operation that succeeds on an id leaves there an application with the identity of the one it
found. -/
abbrev EnsuresAltered (home id : String) (now : Time.Instant) (objects : Objects)
    (p : Program Deployment) : Prop :=
  p.Ensures .objects now objects fun outcome after => ∀ altered, outcome = .ok altered →
    Altered (Store.key kind home id) (toDeployment now) objects after altered

private theorem ensures_search (named : Named objects) {operation : String} {check : Outcome Unit}
    {change : Json → Outcome Json}
    (same : ∀ app changed, change app = .ok changed → SameIdentity changed app) :
    EnsuresAltered home id now objects
      (applicationSearch home now operation id check change).program := by
  refine Search.ensures_program (fun _ => nofun) fun places asked place mem app stored => ?_
  obtain ⟨rfl, -⟩ := applicationSearch_places asked
  obtain rfl := List.mem_singleton.mp mem
  exact Rewrite.ensures_altered stored (named _ _ stored) (same app)

variable (named : Named objects)

include named

theorem ensures_updateDeployment (update : DeploymentUpdate) :
    EnsuresAltered home id now objects (updateDeployment home now id update) := by
  have search := Operation.program_eq_search now (.applicationUpdate home id update)
  change updateDeployment home now id update = _ at search
  rw [search]
  refine ensures_search named fun app changed run => ?_
  cases run
  exact sameIdentity_applyUpdate app update

theorem ensures_scaleDeployment (replicas : Int32) :
    EnsuresAltered home id now objects (scaleDeployment home now id replicas) := by
  have search := Operation.program_eq_search now (.applicationScale home id replicas)
  change scaleDeployment home now id replicas = _ at search
  rw [search]
  exact ensures_search named fun _ _ run => sameIdentity_setReplicas run

theorem ensures_rollbackDeployment (revision : Int64) :
    EnsuresAltered home id now objects (rollbackDeployment home now id revision) := by
  have search := Operation.program_eq_search now (.applicationRollback home id revision)
  change rollbackDeployment home now id revision = _ at search
  rw [search]
  exact ensures_search named fun _ _ run => sameIdentity_pinned run

end Application.OnCluster

namespace Composite.OnCluster

variable {kind : ResourceKind} {id : String}

/-- An id finds the composite of that name. -/
theorem getDeployment_eq_iff {memory : Memory} {deployment : Deployment} :
    (getDeployment kind now id).runInMemory now memory = (.ok deployment, memory) ↔
      Rules.checkName "id" id = .ok () ∧ ∃ composite,
        memory.cluster.objects.get? (Store.key kind "" id) = some composite ∧
          deployment = toDeployment now composite := by
  rcases checked : Rules.checkName "id" id with failure | ⟨⟩
  · simp [getDeployment, composite, checked]
  rcases found : memory.cluster.object? kind "" id with _ | object
  · rw [Store.object?] at found
    simp [getDeployment, composite, checked, Store.get, Store.object?, found]
  · rw [Store.object?] at found
    simp [getDeployment, composite, checked, Store.get, Store.object?, found, eq_comm]

/-- An update leaves a composite with the identity of the one it found, unless it gives that another
namespace. -/
theorem ensures_updateDeployment (named : Named objects) {update : DeploymentUpdate}
    (keeps : ∀ composite, objects.get? (Store.key kind "" id) = some composite →
      KeepsNamespace update (composite.stringAt ["spec", "parameters", "namespace"])) :
    (updateDeployment kind now id update).Ensures .objects now objects fun outcome after =>
      ∀ altered, outcome = .ok altered →
        Altered (Store.key kind "" id) (toDeployment now) objects after altered := by
  rw [← compositeSearch_program]
  refine Search.ensures_program (fun _ => nofun) fun places asked place mem object stored => ?_
  obtain ⟨composition, rfl, -⟩ := compositeSearch_places asked
  obtain rfl := List.mem_singleton.mp mem
  refine Rewrite.ensures_altered stored (named _ _ stored) fun changed run => ?_
  cases run
  exact sameIdentity_applyUpdate (keeps object stored) composition

/-- Composites are neither scaled nor rolled back. -/
theorem ensures_scaleDeployment (id : String) (replicas : Int32) :
    (scaleDeployment id replicas).Ensures .objects now objects fun outcome _ =>
      ∀ altered, outcome ≠ .ok altered := by
  refine .checkpoint nofun ?_
  refine .check (fun _ _ => nofun) fun _ _ => .check (fun _ _ => nofun) fun _ _ => ?_
  exact .done nofun

theorem ensures_rollbackDeployment (id : String) (revision : Int64) :
    (rollbackDeployment id revision).Ensures .objects now objects fun outcome _ =>
      ∀ altered, outcome ≠ .ok altered := by
  refine .checkpoint nofun ?_
  refine .check (fun _ _ => nofun) fun _ _ => .check (fun _ _ => nofun) fun _ _ => ?_
  exact .done nofun

end Composite.OnCluster

namespace Flux

open OnCluster

variable {home id : String} {kind : FluxKind} {object : Json}

theorem Addressed.unique {other : FluxKind} {object' : Json}
    (first : Addressed home id objects kind object)
    (second : Addressed home id objects other object') : other = kind ∧ object' = object := by
  obtain ⟨wanted, name, parsed, found, stored⟩ := first
  obtain ⟨wanted', name', parsed', found', stored'⟩ := second
  rw [parsed] at parsed'
  cases parsed'
  rw [found] at found'
  cases found'
  rw [stored] at stored'
  cases stored'
  exact ⟨rfl, rfl⟩

/-- To look for an id finds the object that it addresses. -/
theorem resolve_of_addressed {memory : Memory} (operation : String)
    (addressed : Addressed home id memory.cluster.objects kind object) :
    (resolve home operation id).runInMemory now memory = (.ok (kind, object), memory) := by
  obtain ⟨wanted, name, parsed, first, stored⟩ := addressed
  have searched (kinds : List FluxKind)
      (first : kinds.find? (fun kind => (memory.cluster.objects.get?
        (Store.key kind.resource home name)).isSome) = some kind) :
      (firstOf home operation id name kinds).runInMemory now memory =
        (.ok (kind, object), memory) := by
    induction kinds with
    | nil => cases first
    | cons other rest ih =>
      rcases found : memory.cluster.object? other.resource home name with _ | present
      · rw [Store.object?] at found
        rw [List.find?_cons_of_neg (by simp [found])] at first
        simpa [firstOf, Store.get, Store.object?, found] using ih first
      · rw [Store.object?] at found
        rw [List.find?_cons_of_pos (by simp [found])] at first
        cases first
        rw [stored] at found
        cases found
        simp [firstOf, Store.get, Store.object?, stored]
  have run := searched (fluxKinds wanted) first
  cases wanted with
  | none => simpa [resolve, parsed, fluxKinds] using run
  | some wanted => simpa [resolve, parsed, fluxKinds] using run

theorem getDeployment_of_addressed {memory : Memory}
    (addressed : Addressed home id memory.cluster.objects kind object) :
    (getDeployment home now id).runInMemory now memory =
      (.ok (toDeployment now kind object), memory) := by
  change (resolve home "get" id >>= fun found =>
    pure (toDeployment now found.1 found.2)).runInMemory now memory = _
  rw [Program.runInMemory_bind, resolve_of_addressed "get" addressed]
  rfl

theorem addressed_of_getDeployment {memory after : Memory} {deployment : Deployment}
    (shown : (getDeployment home now id).runInMemory now memory = (.ok deployment, after)) :
    ∃ kind object, Addressed home id memory.cluster.objects kind object ∧
      deployment = toDeployment now kind object := by
  have ensures : (getDeployment home now id).Ensures .objects now memory.cluster.objects
      fun outcome _ => ∀ deployment, outcome = .ok deployment → ∃ kind object,
        Addressed home id memory.cluster.objects kind object ∧
          deployment = toDeployment now kind object := by
    refine .checkpoint nofun (ensures_resolve.bind ?_ fun _ _ _ => nofun)
    rintro ⟨kind, object⟩ after ⟨-, found⟩
    refine Program.Ensures.done ?_
    rintro deployment ⟨⟩
    exact ⟨kind, object, found kind object rfl, rfl⟩
  exact ensures memory _ _ rfl (Program.runs_of_runInMemory shown) deployment rfl

/-- The object of an id has been replaced by one with the same identity. -/
def AlteredAt (home id : String) (now : Time.Instant) (objects after : Objects)
    (altered : Deployment) : Prop :=
  ∃ kind object, Addressed home id objects kind object ∧
    Altered (Store.key kind.resource home (nameOf object)) (toDeployment now kind) objects after
      altered

/-- The id of an object that was replaced finds the new one. -/
theorem AlteredAt.addressed {after : Objects} {altered : Deployment}
    (alteredAt : AlteredAt home id now objects after altered) (named : Named objects) :
    ∃ kind object new, Addressed home id objects kind object ∧ Addressed home id after kind new ∧
      SameIdentity new object ∧ altered = toDeployment now kind new := by
  obtain ⟨kind, object, ⟨wanted, name, parsed, first, stored⟩, alteration⟩ := alteredAt
  have own : nameOf object = name := named _ _ stored
  rw [own] at alteration
  obtain ⟨_, new, found, placed, same, rfl⟩ := alteration.replaced
  obtain rfl : _ = object := Option.some.inj (found.symm.trans stored)
  refine ⟨kind, _, new, ⟨wanted, name, parsed, first, stored⟩, ⟨wanted, name, parsed, ?_, placed⟩,
    same, rfl⟩
  rw [← first]
  congr 1
  funext other
  by_cases here : other = kind
  · rw [here, placed, stored]
    rfl
  · have plural : other.resource.plural ≠ kind.resource.plural := by
      cases other <;> cases kind <;> first | exact absurd rfl here | decide
    have notRepository : other.resource.plural ≠ gitRepositoryKind.plural := by
      cases other <;> decide
    rw [alteration.elsewhere _ (Store.key_ne_of_plural plural _ _ _ _) notRepository]

abbrev EnsuresAltered (home id : String) (now : Time.Instant) (objects : Objects)
    (p : Program Deployment) : Prop :=
  p.Ensures .objects now objects fun outcome after => ∀ altered, outcome = .ok altered →
    AlteredAt home id now objects after altered

/-- A search goes on with the object that the id addresses, unless it fails. -/
theorem ensures_fluxSearch {β : Type} {operation : String} {check : Outcome β}
    {go : β → FluxKind → Json → Program Deployment} {post : Outcome Deployment → Objects → Prop}
    (fails : ∀ failure, post (.error failure) objects)
    (goes : ∀ b kind object, Addressed home id objects kind object →
      (go b kind object).Ensures .objects now objects post) :
    (fluxSearch home operation id check go).program.Ensures .objects now objects post := by
  rw [fluxSearch_program]
  refine .checkpoint (fails _) (.check (fun failure _ => fails failure) fun asked _ => ?_)
  refine ensures_resolve.bind ?_ ?_
  · rintro ⟨kind, object⟩ _ ⟨rfl, found⟩
    exact goes asked kind object (found kind object rfl)
  · rintro failure _ ⟨rfl, -⟩
    exact fails failure

private theorem ensures_rewrite (named : Named objects) {operation : String}
    {change : Json → Outcome Json} (addressed : Addressed home id objects kind object)
    (same : ∀ changed, change object = .ok changed → SameIdentity changed object) :
    EnsuresAltered home id now objects
      ((fluxRewrite home now operation kind change).program object) := by
  obtain ⟨wanted, name, parsed, first, stored⟩ := addressed
  have own : nameOf object = name := named _ _ stored
  have kept : ∀ changed, (fluxRewrite home now operation kind change).change object = .ok changed →
      SameIdentity changed object := by
    intro changed run
    obtain ⟨between, made, run⟩ := Outcome.bind_eq_ok.mp run
    cases run
    exact (sameIdentity_requestReconcile now between).trans (same between made)
  refine (Rewrite.ensures_altered stored own kept).mono fun outcome after altered deployment ended => ?_
  refine ⟨kind, object, ⟨wanted, name, parsed, first, stored⟩, ?_⟩
  rw [own]
  exact altered deployment ended

/-- A pin changes repositories at most. -/
private theorem ensures_pinSource (revision : String) :
    (pinSource now id object revision).Ensures .objects now objects fun _ after =>
      SameButRepositories objects after := by
  have same : SameButRepositories objects objects := fun _ _ => rfl
  unfold pinSource
  split
  · dsimp only
    split
    · exact .done same
    · refine .connect same (.get (fun _ => .done same) fun repository _ => ?_)
      refine .update (fun _ => .done same) fun store current new _ _ => .done fun key notRepository => ?_
      refine SortedMap.get?_insert_of_ne _ (fun here => notRepository ?_) _
      rw [here]
      rfl
  · exact .done same

/-- A kustomization stays the one it is when the repository it is applied from is pinned, and itself is
written as it was. -/
private theorem ensures_rollbackKustomization (named : Named objects) {revision : Int64}
    (addressed : Addressed home id objects .kustomization object) :
    EnsuresAltered home id now objects
      (Operation.rollbackKustomization now home id revision object) := by
  rw [rollbackKustomization_eq]
  split
  · exact .done nofun
  split
  · refine (ensures_pinSource _).bind ?_ fun _ _ _ => nofun
    intro pin between same
    obtain ⟨wanted, name, parsed, first, stored⟩ := addressed
    have own : nameOf object = name := named _ _ stored
    have notRepository : kustomizationKind.plural ≠ gitRepositoryKind.plural := by decide
    have unchanged : between.get? (Store.key kustomizationKind home name) = some object :=
      (same _ notRepository).trans stored
    have kept : ∀ changed, (fluxRewrite home now "rollback" .kustomization .ok).change object =
        .ok changed → SameIdentity changed object := by
      rintro changed ⟨⟩
      exact sameIdentity_requestReconcile now object
    refine (Rewrite.ensures_altered unchanged own kept).attempt.bind ?_ fun _ _ => nofun
    rintro _ after ⟨failure | deployment, ⟨⟩, altered⟩
    · -- The repair does not turn the failure into a success.
      have repair : (restoreSource now pin).attempt.Ensures .objects now after fun _ _ => True :=
        fun _ _ _ _ _ => trivial
      refine repair.bind (fun _ _ _ => .done nofun) fun _ _ _ => nofun
    · refine .done ?_
      rintro _ ⟨⟩
      refine ⟨.kustomization, object, ⟨wanted, name, parsed, first, stored⟩, ?_⟩
      rw [own]
      exact (altered deployment rfl).of_sameButRepositories same notRepository
  · exact .done nofun

section

variable (named : Named objects)

include named

theorem ensures_updateDeployment (update : DeploymentUpdate) :
    EnsuresAltered home id now objects (updateDeployment home now id update) := by
  have search := Operation.program_eq_search now (.fluxUpdate home id update)
  change updateDeployment home now id update = _ at search
  rw [search]
  exact ensures_fluxSearch (fun _ => nofun) fun asked kind object addressed =>
    ensures_rewrite named addressed fun _ run => sameIdentity_applyUpdate run

theorem ensures_scaleDeployment (replicas : Int32) :
    EnsuresAltered home id now objects (scaleDeployment home now id replicas) := by
  have search := Operation.program_eq_search now (.fluxScale home id replicas)
  change scaleDeployment home now id replicas = _ at search
  rw [search]
  exact ensures_fluxSearch (fun _ => nofun) fun _ kind object addressed =>
    ensures_rewrite named addressed fun _ run => sameIdentity_fluxScaleChange run

theorem ensures_rollbackDeployment (revision : Int64) :
    EnsuresAltered home id now objects (rollbackDeployment home now id revision) := by
  have search := Operation.program_eq_search now (.fluxRollback home id revision)
  change rollbackDeployment home now id revision = _ at search
  rw [search]
  refine ensures_fluxSearch (fun _ => nofun) fun _ kind object addressed => ?_
  cases kind with
  | kustomization => exact ensures_rollbackKustomization named addressed
  | helmRelease =>
    exact ensures_rewrite named addressed fun _ run => sameIdentity_fluxRollbackChange run

end

end Flux

end DeploymentGateway
