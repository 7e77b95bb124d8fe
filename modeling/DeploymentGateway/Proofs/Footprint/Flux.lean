import DeploymentGateway.Proofs.Footprint.Cluster
/-!
What operations on kustomizations and helm releases may change. Besides its object an operation may write a
repository: the one that a new kustomization is applied from, or the one that a stored kustomization says it
is applied from. No operation touches any other object.
-/

set_option autoImplicit false

namespace DeploymentGateway.Flux

open Cluster OnCluster

variable {home : String} {now : Time.Instant} {objects : Objects} {touched : ObjectKey → Prop}

/-! None of them asks the release manager for anything. -/

private theorem sparesReleases_search {β : Type} {operation id : String} {check : Outcome β}
    {go : β → FluxKind → Json → Program Deployment}
    (goes : ∀ b kind object, (go b kind object).SparesReleases) :
    (fluxSearch home operation id check go).program.SparesReleases := by
  rw [fluxSearch_program]
  refine Program.sparesReleases_bind (by simp) fun _ => Program.sparesReleases_bind (by simp) fun b => ?_
  refine Program.sparesReleases_bind (readOnly_resolve home operation id).sparesReleases fun found => ?_
  exact goes b found.1 found.2

private theorem sparesReleases_rewrite (rewrite : Rewrite) (object : Json) :
    (rewrite.program object).SparesReleases := by
  simp [Rewrite.program, Rewrite.write, forall_reply]

private theorem sparesReleases_createKustomization (request : DeploymentRequest) :
    (createKustomization home now request).SparesReleases := by
  rcases found : newSource home request with failure | ⟨source, repository⟩
  · simp [createKustomization, found]
  rcases built : buildKustomization home request source with failure | kustomization
  · simp [createKustomization, found, built]
  have undone : ∀ error, (do
      let url ← Program.ofOutcome (Rules.optionalText request.extensions "repoURL")
      if url.isSome && source == request.name then
        let _ ← Program.delete gitRepositoryKind home source
      Program.fail (.failed backend "create" request.name (.cluster error)) :
        Program Deployment).SparesReleases := by
    intro error
    refine Program.sparesReleases_bind (by simp) fun url => ?_
    split <;> simp
  cases repository with
  | none => simpa [createKustomization, found, built, forall_reply] using undone
  | some made => simpa [createKustomization, found, built, forall_reply] using undone

private theorem sparesReleases_removeOwnedSource (name : String) (object : Json) :
    (removeOwnedSource name object).SparesReleases := by
  unfold removeOwnedSource
  dsimp only
  split
  · refine Program.sparesReleases_bind (by simp) fun reply => ?_
    rcases reply with error | repository
    · trivial
    · dsimp only
      split <;> simp
  · trivial

private theorem sparesReleases_settle (object : Json) (pin : Pin) :
    (settle home now object pin).SparesReleases := by
  have written : (write home now "rollback" .kustomization
      (requestReconcile now object)).SparesReleases := by
    simp [write, forall_reply]
  have restored : (restoreSource now pin).SparesReleases := by
    simp [restoreSource, forall_reply]
  refine Program.sparesReleases_bind (Program.sparesReleases_attempt written) fun outcome => ?_
  rcases outcome with failure | deployment
  · exact Program.sparesReleases_bind (Program.sparesReleases_attempt restored) fun _ => trivial
  · trivial

private theorem sparesReleases_rollbackKustomization (id : String) (revision : Int64) (object : Json) :
    (Operation.rollbackKustomization now home id revision object).SparesReleases := by
  have pins : ∀ revision, (pinSource now id object revision).SparesReleases := by
    intro revision
    unfold pinSource
    split
    · dsimp only
      split <;> simp [forall_reply]
    · trivial
  rw [rollbackKustomization_eq]
  split
  · trivial
  split
  · exact Program.sparesReleases_bind (pins _) fun pin => sparesReleases_settle object pin
  · trivial

theorem sparesReleases_action (home : String) (now : Time.Instant) (action : Action) :
    (action.program (operations home now)).SparesReleases := by
  by_cases reads : action.reads = true
  · exact (readOnly_action home now reads).sparesReleases
  cases action with
  | uploadPackage upload => simp [operations, uploadPackage]
  | deletePackage id => simp [operations, deletePackage]
  | createDeployment request =>
    refine Program.sparesReleases_bind (by simp) fun _ => Program.sparesReleases_bind (by simp) fun _ =>
      Program.sparesReleases_bind (by simp) fun _ => Program.sparesReleases_bind (by simp) fun kind => ?_
    cases kind with
    | kustomization => exact sparesReleases_createKustomization request
    | helmRelease => simp [createHelmRelease, forall_reply]
  | updateDeployment id update =>
    have search := Operation.program_eq_search now (.fluxUpdate home id update)
    change updateDeployment home now id update = _ at search
    change (updateDeployment home now id update).SparesReleases
    rw [search]
    exact sparesReleases_search fun _ _ object => sparesReleases_rewrite _ object
  | deleteDeployment id =>
    refine Program.sparesReleases_bind (by simp) fun _ => Program.sparesReleases_bind
      (readOnly_resolve home _ _).sparesReleases fun found => ?_
    obtain ⟨kind, object⟩ := found
    have removed := sparesReleases_removeOwnedSource (nameOf object) object
    cases kind with
    | kustomization => simpa [forall_reply] using removed
    | helmRelease => simp [forall_reply]
  | scaleDeployment id replicas =>
    have search := Operation.program_eq_search now (.fluxScale home id replicas)
    change scaleDeployment home now id replicas = _ at search
    change (scaleDeployment home now id replicas).SparesReleases
    rw [search]
    exact sparesReleases_search fun _ _ object => sparesReleases_rewrite _ object
  | rollbackDeployment id revision =>
    have search := Operation.program_eq_search now (.fluxRollback home id revision)
    change rollbackDeployment home now id revision = _ at search
    change (rollbackDeployment home now id revision).SparesReleases
    rw [search]
    refine sparesReleases_search fun _ kind object => ?_
    cases kind with
    | helmRelease => exact sparesReleases_rewrite _ object
    | kustomization => exact sparesReleases_rollbackKustomization id revision object
  | _ => exact absurd rfl reads

/-! A creation. -/

section

variable {request : DeploymentRequest}

theorem confined_createKustomization
    (here : touched (Store.key kustomizationKind home request.name))
    (source : ∀ name made object, newSource home request = .ok (name, made) →
      buildKustomization home request name = .ok object → touched (repositoryKey object)) :
    (createKustomization home now request).Confined now touched objects := by
  have unchanged : ChangesOnly touched objects objects := .refl touched objects
  refine .check (fun _ _ => unchanged) fun ⟨name, repository⟩ found => ?_
  refine .check (fun _ _ => unchanged) fun kustomization built => .connect unchanged ?_
  have named := nameOf_buildKustomization built
  have repositories : touched (Store.key gitRepositoryKind home name) := by
    have place := source name repository kustomization found built
    rwa [repositoryKey, sourceRef_buildKustomization built] at place
  rw [← named] at here
  -- Whatever was changed up to now, to undo what was made stays inside.
  have undone (between : Objects) (inside : ChangesOnly touched objects between) (error : ClusterError) :
      (do
        let url ← Program.ofOutcome (Rules.optionalText request.extensions "repoURL")
        if url.isSome && name == request.name then
          let _ ← Program.delete gitRepositoryKind home name
        Program.fail (.failed backend "create" request.name (.cluster error)) :
          Program Deployment).Ensures .objects now between fun _ after =>
        ChangesOnly touched objects after := by
    refine .check (fun _ _ => inside) fun url _ => ?_
    split
    · exact .delete (fun _ => .done inside) fun _ _ => .done (inside.erase repositories)
    · exact .done inside
  cases repository with
  | none =>
    exact .create (fun error => undone objects unchanged error) fun store new _ _ =>
      .done (unchanged.insert here new)
  | some made =>
    obtain ⟨url, -, ⟨⟨⟩, -⟩ | ⟨rfl, -, -, _, ⟨⟩, own⟩⟩ := newSource_cases found
    refine .create (fun error => .done unchanged) fun store new _ _ => ?_
    rw [own]
    have between := unchanged.insert repositories new
    exact .create (fun error => undone _ between error) fun store new' _ _ =>
      .done (between.insert here new')

theorem confined_createDeployment
    (here : ∀ kind, requestedKind request = .ok kind →
      touched (Store.key kind.resource home request.name))
    (source : ∀ name made object, requestedKind request = .ok .kustomization →
      newSource home request = .ok (name, made) → buildKustomization home request name = .ok object →
        touched (repositoryKey object)) :
    (createDeployment home now request).Confined now touched objects := by
  have unchanged : ChangesOnly touched objects objects := .refl touched objects
  refine .checkpoint unchanged (.check (fun _ _ => unchanged) fun _ _ => ?_)
  refine .check (fun _ _ => unchanged) fun _ _ => .check (fun _ _ => unchanged) fun kind asked => ?_
  have here := here kind asked
  cases kind with
  | kustomization =>
    exact confined_createKustomization here fun name made object => source name made object asked
  | helmRelease =>
    refine .check (fun _ _ => unchanged) fun release built => ?_
    rw [← nameOf_buildHelmRelease built] at here
    refine .connect unchanged (Program.confined_create here fun reply => ?_)
    rcases reply with error | created <;> exact ⟨_, rfl⟩

end

/-! What is done to the repository of a kustomization. -/

section

variable {object : Json}
  (source : (sourceRef .kustomization object).kind = gitRepositoryKind.kind →
    touched (repositoryKey object))

include source

private theorem confined_removeOwnedSource {name : String} :
    (removeOwnedSource name object).Confined now touched objects := by
  have unchanged : ChangesOnly touched objects objects := .refl touched objects
  unfold removeOwnedSource
  dsimp only
  split
  · rename_i repositories
    have place := source (by simpa using repositories)
    refine .get (fun _ => .done unchanged) fun repository _ => ?_
    dsimp only
    split
    · exact .delete (fun _ => .done unchanged) fun _ _ => .done (unchanged.erase place)
    · exact .done unchanged
  · exact .done unchanged

/-- A pin also tells which repository it has changed. -/
private theorem confined_pinSource (named : Named objects) {id revision : String} :
    (pinSource now id object revision).Ensures .objects now objects fun outcome after =>
      ChangesOnly touched objects after ∧ ∀ pin, outcome = .ok pin →
        touched (Store.key gitRepositoryKind pin.namespace pin.name) := by
  have unchanged : ChangesOnly touched objects objects := .refl touched objects
  have failed (failure : Failure) : ChangesOnly touched objects objects ∧
      ∀ pin, (.error failure : Outcome Pin) = .ok pin →
        touched (Store.key gitRepositoryKind pin.namespace pin.name) := by
    refine ⟨unchanged, ?_⟩
    rintro pin ⟨⟩
  unfold pinSource
  split
  · rename_i commit _
    dsimp only
    split
    · exact .done (failed _)
    · rename_i repositories
      have place := source (by simpa using repositories)
      refine .connect (failed _)
        (.get (fun _ => .done (failed _)) fun repository stored => ?_)
      refine .update (fun _ => .done (failed _)) fun store current new _ _ => .done ⟨?_, ?_⟩
      · have own : nameOf (pinned now repository commit) = _ :=
          (nameOf_pinned now repository commit).trans (named _ _ stored)
        rw [pinned] at own
        rw [own]
        exact unchanged.insert place new
      · rintro pin ⟨⟩
        exact place
  · exact .done (failed _)

end

private theorem confined_restoreSource (named : Named objects) {pin : Pin}
    (place : touched (Store.key gitRepositoryKind pin.namespace pin.name)) :
    (restoreSource now pin).Confined now touched objects := by
  have unchanged : ChangesOnly touched objects objects := .refl touched objects
  obtain ⟨«namespace», name, before⟩ := pin
  refine .connect unchanged (.get (fun _ => .done unchanged) fun repository stored => ?_)
  have own : nameOf (repaired now repository before) = name :=
    (nameOf_repaired now repository before).trans (named _ _ stored)
  have inserted := fun new => unchanged.insert place new
  rw [← own] at inserted
  cases before <;>
    exact .update (fun _ => .done unchanged) fun store current new _ _ => .done (inserted new)

/-! What is done to an object that an id addresses. -/

section

variable {id : String}
  (here : ∀ kind object, Addressed home id objects kind object →
    touched (Store.key kind.resource home (nameOf object)))

include here

private theorem confined_rewrite (named : Named objects) {operation : String} {kind : FluxKind}
    {object : Json} {change : Json → Outcome Json} (edits : Edits change)
    (addressed : Addressed home id objects kind object) :
    ((fluxRewrite home now operation kind change).program object).Confined now touched objects := by
  have place := here kind object addressed
  obtain ⟨wanted, name, parsed, -, stored⟩ := addressed
  have own : nameOf object = name := named _ _ stored
  rw [own] at place
  exact Rewrite.confined own (ne_empty_of_parseId parsed) (Operation.edits_fluxRewrite now edits) place

theorem confined_updateDeployment (named : Named objects) (update : DeploymentUpdate) :
    (updateDeployment home now id update).Confined now touched objects := by
  have search := Operation.program_eq_search now (.fluxUpdate home id update)
  change updateDeployment home now id update = _ at search
  rw [search]
  exact ensures_fluxSearch (fun _ => .refl touched objects) fun asked kind object addressed =>
    confined_rewrite here named (edits_applyUpdate kind update asked.1 asked.2) addressed

theorem confined_scaleDeployment (named : Named objects) (replicas : Int32) :
    (scaleDeployment home now id replicas).Confined now touched objects := by
  have search := Operation.program_eq_search now (.fluxScale home id replicas)
  change scaleDeployment home now id replicas = _ at search
  rw [search]
  exact ensures_fluxSearch (fun _ => .refl touched objects) fun _ kind object addressed =>
    confined_rewrite here named (Operation.edits_fluxScaleChange replicas kind) addressed

variable (source : ∀ object, Addressed home id objects .kustomization object →
  (sourceRef .kustomization object).kind = gitRepositoryKind.kind → touched (repositoryKey object))

include source

theorem confined_deleteDeployment :
    (deleteDeployment home id).Confined now touched objects := by
  have unchanged : ChangesOnly touched objects objects := .refl touched objects
  refine .checkpoint unchanged (ensures_resolve.bind ?_ ?_)
  · rintro ⟨kind, object⟩ _ ⟨rfl, found⟩
    have addressed := found kind object rfl
    refine .connect unchanged (.delete (fun _ => .done unchanged) fun _ _ => ?_)
    have deleted := unchanged.erase (here kind object addressed)
    cases kind with
    | helmRelease => exact .done deleted
    | kustomization =>
      exact (confined_removeOwnedSource (source object addressed)).mono fun _ _ removed =>
        deleted.trans removed
  · rintro failure _ ⟨rfl, -⟩
    exact unchanged

private theorem confined_rollbackKustomization (named : Named objects) {revision : Int64}
    {object : Json} (addressed : Addressed home id objects .kustomization object) :
    (Operation.rollbackKustomization now home id revision object).Confined now touched objects := by
  have unchanged : ChangesOnly touched objects objects := .refl touched objects
  have place := here .kustomization object addressed
  have nonempty : nameOf object ≠ "" := by
    obtain ⟨wanted, name, parsed, -, stored⟩ := addressed
    rw [named _ _ stored]
    exact ne_empty_of_parseId parsed
  rw [rollbackKustomization_eq]
  split
  · exact .done unchanged
  split
  · refine ((confined_pinSource (source object addressed) named).and
      (Program.ensures_named named _)).bind ?_ fun _ _ h => h.1.1
    rintro pin between ⟨⟨changed, pins⟩, named⟩
    have written : ((fluxRewrite home now "rollback" .kustomization .ok).program object).Confined now
        touched between :=
      Rewrite.confined rfl nonempty (Operation.edits_fluxRewrite now Edits.unchanged) place
    change (write home now "rollback" .kustomization
      (requestReconcile now object)).Confined now touched between at written
    refine (written.and (Program.ensures_named named _)).attempt.bind ?_ ?_
    · rintro _ after ⟨failure | deployment, ⟨⟩, more, named⟩
      · refine (confined_restoreSource named (pins pin rfl)).attempt.bind ?_ ?_
        · rintro _ _ ⟨outcome, ⟨⟩, last⟩
          exact .done ((changed.trans more).trans last)
        · rintro _ _ ⟨outcome, ⟨⟩, -⟩
      · exact .done (changed.trans more)
    · rintro _ _ ⟨outcome, ⟨⟩, -⟩
  · exact .done unchanged

theorem confined_rollbackDeployment (named : Named objects) (revision : Int64) :
    (rollbackDeployment home now id revision).Confined now touched objects := by
  have search := Operation.program_eq_search now (.fluxRollback home id revision)
  change rollbackDeployment home now id revision = _ at search
  rw [search]
  refine ensures_fluxSearch (fun _ => .refl touched objects) fun _ kind object addressed => ?_
  cases kind with
  | kustomization => exact confined_rollbackKustomization here source named addressed
  | helmRelease =>
    exact confined_rewrite here named (Operation.edits_fluxRollbackChange now id revision) addressed

end

end DeploymentGateway.Flux
