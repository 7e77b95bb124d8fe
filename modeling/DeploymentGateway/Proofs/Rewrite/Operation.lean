import DeploymentGateway.Application.OnCluster
import DeploymentGateway.Composite.OnCluster
import DeploymentGateway.Flux.OnCluster
import DeploymentGateway.Proofs.Rewrite.Search
/-!
The operations that read one object and write it back, and that each of them is a search for its
object.
-/

set_option autoImplicit false

namespace DeploymentGateway

open Cluster

section

variable (home : String) (now : Time.Instant)

/-- The rewrite of an application. -/
def applicationRewrite (operation : String) (change : Json → Outcome Json) : Rewrite where
  kind := Application.kind
  «namespace» := home
  change
  failure app := deploymentFailure Application.OnCluster.backend operation (nameOf app)
  result := Application.toDeployment now

/-- The search for an application, after a check of what else was asked. -/
def applicationSearch (operation id : String) (check : Outcome Unit)
    (change : Json → Outcome Json) : Search where
  backend := Application.OnCluster.backend
  operation
  id
  places := do
    check
    Rules.checkName "id" id
    return [(applicationRewrite home now operation change).place id]

theorem applicationSearch_program (operation id : String) (check : Outcome Unit)
    (change : Json → Outcome Json) :
    (applicationSearch home now operation id check change).program = (do
      Program.checkpoint
      Program.ofOutcome check
      let app ← Application.OnCluster.application home operation id
      let changed ← Program.ofOutcome (change app)
      Application.OnCluster.write home now operation changed) := by
  refine congrArg (Program.call _) (funext fun reply => ?_)
  rcases reply with failure | ⟨⟩
  · rfl
  rcases check with failure | ⟨⟩
  · rfl
  have places : (applicationSearch home now operation id (.ok ()) change).places =
      Rules.checkName "id" id >>= fun _ =>
        .ok [(applicationRewrite home now operation change).place id] := rfl
  rw [places, Application.OnCluster.application]
  rcases Rules.checkName "id" id with failure | ⟨⟩
  · rfl
  · refine congrArg (Program.call _) (funext fun reply => ?_)
    rcases reply with failure | ⟨⟩
    · rfl
    · exact Search.seek_singleton _ _

/-- The rewrite of a composite. -/
def compositeRewrite (kind : ResourceKind) (id : String) (update : DeploymentUpdate)
    (composition : Option String) : Rewrite where
  kind
  «namespace» := ""
  change composite := .ok (Composite.applyUpdate composite update composition)
  failure _ := deploymentFailure Composite.OnCluster.backend "update" id
  result := Composite.toDeployment now

/-- The search for a composite. -/
def compositeSearch (kind : ResourceKind) (id : String) (update : DeploymentUpdate) : Search where
  backend := Composite.OnCluster.backend
  operation := "update"
  id
  places := do
    let composition ← Composite.updatedComposition update
    Rules.checkName "id" id
    return [(compositeRewrite now kind id update composition).place id]

theorem compositeSearch_program (kind : ResourceKind) (id : String) (update : DeploymentUpdate) :
    (compositeSearch now kind id update).program =
      Composite.OnCluster.updateDeployment kind now id update := by
  refine congrArg (Program.call _) (funext fun reply => ?_)
  rcases reply with failure | ⟨⟩
  · rfl
  have places : (compositeSearch now kind id update).places =
      Composite.updatedComposition update >>= fun composition =>
        Rules.checkName "id" id >>= fun _ =>
          .ok [(compositeRewrite now kind id update composition).place id] := rfl
  rw [places]
  rcases Composite.updatedComposition update with failure | composition
  · rfl
  rw [Composite.OnCluster.composite]
  rcases Rules.checkName "id" id with failure | ⟨⟩
  · rfl
  · refine congrArg (Program.call _) (funext fun reply => ?_)
    rcases reply with failure | ⟨⟩
    · rfl
    · exact Search.seek_singleton _ _

/-- The rewrite of a kustomization or helm release, which also asks for a reconciliation. -/
def fluxRewrite (operation : String) (kind : Flux.FluxKind) (change : Json → Outcome Json) :
    Rewrite where
  kind := kind.resource
  «namespace» := home
  change object := do
    let changed ← change object
    return Flux.requestReconcile now changed
  failure object :=
    deploymentFailure Flux.backend operation (Flux.deploymentId kind (nameOf object))
  result := Flux.toDeployment now kind

/-- The kinds of the objects that an id may mean, in the order in which they are looked for. -/
def fluxKinds : Option Flux.FluxKind → List Flux.FluxKind
  | some kind => [kind]
  | none => Flux.FluxKind.all

/-- The search for a kustomization or helm release, after a check of what else was asked. -/
def fluxSearch {β : Type} (operation id : String) (check : Outcome β)
    (go : β → Flux.FluxKind → Json → Program Deployment) : Search where
  backend := Flux.backend
  operation
  id
  places := do
    let asked ← check
    let (kind, name) ← Flux.parseId id
    return (fluxKinds kind).map fun kind => ⟨kind.resource, home, name, go asked kind⟩

theorem fluxSearch_places {β : Type} {operation id : String} {check : Outcome β}
    {go : β → Flux.FluxKind → Json → Program Deployment} {places : List Place}
    (asked : (fluxSearch home operation id check go).places = .ok places) :
    ∃ b kind name, check = .ok b ∧ Flux.parseId id = .ok (kind, name) ∧
      places = (fluxKinds kind).map fun kind => ⟨kind.resource, home, name, go b kind⟩ := by
  obtain ⟨b, checked, asked⟩ := Outcome.bind_eq_ok.mp asked
  obtain ⟨⟨kind, name⟩, parsed, asked⟩ := Outcome.bind_eq_ok.mp asked
  cases asked
  exact ⟨b, kind, name, checked, parsed, rfl⟩

theorem careful_fluxSearch {β : Type} {operation id : String} {check : Outcome β}
    {go : β → Flux.FluxKind → Json → Program Deployment} {refusal : Failure → Prop}
    (careful : ∀ b kind object, (go b kind object).Careful refusal) :
    (fluxSearch home operation id check go).program.Careful refusal := by
  refine Search.careful_program _ fun places asked place mem object => ?_
  obtain ⟨b, kind, name, -, -, rfl⟩ := fluxSearch_places home asked
  obtain ⟨kind, -, rfl⟩ := List.mem_map.mp mem
  exact careful b kind object

private theorem firstOf_bind (operation id name : String) (places : Outcome (List Place))
    (kinds : List Flux.FluxKind) (go : Flux.FluxKind → Json → Program Deployment) :
    (do let (kind, object) ← Flux.OnCluster.firstOf home operation id name kinds
        go kind object) =
      (Search.mk Flux.backend operation id places).seek
        (kinds.map fun kind => ⟨kind.resource, home, name, go kind⟩) := by
  induction kinds with
  | nil => rfl
  | cons kind kinds ih =>
    refine congrArg (Program.call _) (funext fun reply => ?_)
    rcases reply with (_ | _ | _ | _) | object
    · exact ih
    all_goals rfl

theorem fluxSearch_program {β : Type} (operation id : String) (check : Outcome β)
    (go : β → Flux.FluxKind → Json → Program Deployment) :
    (fluxSearch home operation id check go).program = (do
      Program.checkpoint
      let asked ← Program.ofOutcome check
      let (kind, object) ← Flux.OnCluster.resolve home operation id
      go asked kind object) := by
  refine congrArg (Program.call _) (funext fun reply => ?_)
  rcases reply with failure | ⟨⟩
  · rfl
  rcases check with failure | asked
  · rfl
  have places : (fluxSearch home operation id (.ok asked) go).places =
      Flux.parseId id >>= fun parsed => .ok ((fluxKinds parsed.1).map fun kind =>
        ⟨kind.resource, home, parsed.2, go asked kind⟩) := rfl
  rw [places, Flux.OnCluster.resolve]
  rcases Flux.parseId id with failure | ⟨kind, name⟩
  · rfl
  · refine congrArg (Program.call _) (funext fun reply => ?_)
    rcases reply with failure | ⟨⟩
    · rfl
    · have searched := firstOf_bind home operation id name
        (fluxSearch home operation id (.ok asked) go).places (fluxKinds kind) (go asked)
      rcases kind with _ | kind <;> exact searched.symm

end

/-- The operations that read one object and write it back. -/
inductive Operation where
  | applicationUpdate (home id : String) (update : DeploymentUpdate)
  | applicationScale (home id : String) (replicas : Int32)
  | applicationRollback (home id : String) (revision : Int64)
  | compositeUpdate (kind : ResourceKind) (id : String) (update : DeploymentUpdate)
  | fluxUpdate (home id : String) (update : DeploymentUpdate)
  | fluxScale (home id : String) (replicas : Int32)
  | fluxRollback (home id : String) (revision : Int64)

namespace Operation

variable (now : Time.Instant)

/-- The program of an operation, at an instant. -/
def program : Operation → Program Deployment
  | applicationUpdate home id update =>
    Application.OnCluster.updateDeployment home now id update
  | applicationScale home id replicas =>
    Application.OnCluster.scaleDeployment home now id replicas
  | applicationRollback home id revision =>
    Application.OnCluster.rollbackDeployment home now id revision
  | compositeUpdate kind id update => Composite.OnCluster.updateDeployment kind now id update
  | fluxUpdate home id update => Flux.OnCluster.updateDeployment home now id update
  | fluxScale home id replicas => Flux.OnCluster.scaleDeployment home now id replicas
  | fluxRollback home id revision => Flux.OnCluster.rollbackDeployment home now id revision

/-- What an update of a kustomization or helm release has to pass: its path, if it has one, and its
version. -/
def fluxUpdateCheck (id : String) (update : DeploymentUpdate) :
    Outcome (Option String × Option String) := do
  let _ ← Flux.parseId id
  let path ← Rules.optionalText update.extensions "path"
  if let some path := path then
    Rules.checkPath "extensions.path" path
  let version ← Rules.optionalText update.extensions "version"
  return (path, version)

theorem fluxUpdateCheck_eq_ok {id : String} {update : DeploymentUpdate} {path version : Option String}
    (checked : fluxUpdateCheck id update = .ok (path, version)) :
    Rules.optionalText update.extensions "path" = .ok path ∧
      (∀ text ∈ path, Rules.checkPath "extensions.path" text = .ok ()) ∧
      Rules.optionalText update.extensions "version" = .ok version := by
  obtain ⟨-, -, checked⟩ := Outcome.bind_eq_ok.mp checked
  obtain ⟨given, asked, checked⟩ := Outcome.bind_eq_ok.mp checked
  rcases given with _ | text
  · obtain ⟨wanted, versions, same⟩ := Outcome.bind_eq_ok.mp checked
    cases same
    refine ⟨asked, ?_, versions⟩
    rintro _ ⟨⟩
  · obtain ⟨⟨⟩, inside, checked⟩ := Outcome.bind_eq_ok.mp checked
    obtain ⟨wanted, versions, same⟩ := Outcome.bind_eq_ok.mp checked
    cases same
    refine ⟨asked, ?_, versions⟩
    rintro _ ⟨⟩
    exact inside

/-- What a change of replicas has to pass. -/
def fluxScaleCheck (id : String) (replicas : Int32) : Outcome Unit := do
  let (kind, _) ← Flux.parseId id
  Rules.checkReplicas replicas
  if kind == some .kustomization then
    .error Flux.OnCluster.scaleUnsupported

/-- The change of replicas, which only a helm release has. -/
def fluxScaleChange (replicas : Int32) : Flux.FluxKind → Json → Outcome Json
  | .kustomization, _ => .error Flux.OnCluster.scaleUnsupported
  | .helmRelease, object =>
    .ok (object.set (.ofInt replicas.toInt) ["spec", "values", "replicaCount"])

/-- The version at a position of a history, empty where there is none. -/
def versionAt (revisions : List Revision) (index : Nat) : String :=
  match revisions[index]? with
  | some entry => entry.version
  | none => ""

/-- The change of a helm release to the version of its chart at a position of its history. -/
def fluxRollbackChange (id : String) (revision : Int64) (object : Json) : Outcome Json := do
  let revisions := Flux.revisionsOf now .helmRelease object
  let index ← Listing.historyIndex id revision revisions.length
  return object.set (.string (versionAt revisions index)) ["spec", "chart", "spec", "version"]

private theorem program_fluxUpdate_resolved (home id : String) (update : DeploymentUpdate)
    (path version : Option String) :
    (do let (kind, object) ← Flux.OnCluster.resolve home "update" id
        (fluxRewrite home now "update" kind fun object =>
          Flux.applyUpdate kind object update path version).program object) =
      (do let (kind, object) ← Flux.OnCluster.resolve home "update" id
          let changed ← Program.ofOutcome (Flux.applyUpdate kind object update path version)
          Flux.OnCluster.write home now "update" kind (Flux.requestReconcile now changed)) := by
  refine congrArg (Flux.OnCluster.resolve home "update" id >>= ·) (funext fun found => ?_)
  obtain ⟨kind, object⟩ := found
  simp only [Rewrite.program, fluxRewrite]
  rcases Flux.applyUpdate kind object update path version with failure | changed <;> rfl

private theorem program_fluxUpdate (home id : String) (update : DeploymentUpdate) :
    (fluxSearch home "update" id (fluxUpdateCheck id update) fun asked kind =>
      (fluxRewrite home now "update" kind fun object =>
        Flux.applyUpdate kind object update asked.1 asked.2).program).program =
      (fluxUpdate home id update).program now := by
  rw [fluxSearch_program]
  refine congrArg (Program.call _) (funext fun reply => ?_)
  rcases reply with failure | ⟨⟩
  · rfl
  unfold fluxUpdateCheck
  rcases Flux.parseId id with failure | parsed
  · rfl
  rcases Rules.optionalText update.extensions "path" with failure | path
  · rfl
  rcases path with _ | path
  · rcases Rules.optionalText update.extensions "version" with failure | version
    · rfl
    · exact program_fluxUpdate_resolved now home id update none version
  · change (Program.ofOutcome (Rules.checkPath "extensions.path" path >>= fun _ =>
        Rules.optionalText update.extensions "version" >>= fun version =>
          pure (some path, version)) >>= _) =
      (Program.ofOutcome (Rules.checkPath "extensions.path" path) >>= fun _ =>
        Program.ofOutcome (Rules.optionalText update.extensions "version") >>= _)
    rcases Rules.checkPath "extensions.path" path with failure | ⟨⟩
    · rfl
    rcases Rules.optionalText update.extensions "version" with failure | version
    · rfl
    · exact program_fluxUpdate_resolved now home id update (some path) version

private theorem program_fluxScale (home id : String) (replicas : Int32) :
    (fluxSearch home "scale" id (fluxScaleCheck id replicas) fun _ kind =>
      (fluxRewrite home now "scale" kind (fluxScaleChange replicas kind)).program).program =
      (fluxScale home id replicas).program now := by
  rw [fluxSearch_program]
  refine congrArg (Program.call _) (funext fun reply => ?_)
  rcases reply with failure | ⟨⟩
  · rfl
  unfold fluxScaleCheck
  rcases Flux.parseId id with failure | ⟨kind, name⟩
  · rfl
  rcases Rules.checkReplicas replicas with failure | ⟨⟩
  · rfl
  rcases kind with _ | _ | _
  · refine congrArg (Flux.OnCluster.resolve home "scale" id >>= ·) (funext fun found => ?_)
    obtain ⟨_ | _, object⟩ := found <;> rfl
  · rfl
  · refine congrArg (Flux.OnCluster.resolve home "scale" id >>= ·) (funext fun found => ?_)
    obtain ⟨_ | _, object⟩ := found <;> rfl

/-- A rollback of a kustomization, which pins the repository it is applied from. -/
def rollbackKustomization (home id : String) (revision : Int64) (object : Json) :
    Program Deployment := do
  let revisions := Flux.revisionsOf now .kustomization object
  let index ← .ofOutcome (Listing.historyIndex id revision revisions.length)
  let pin ← Flux.OnCluster.pinSource now id object (versionAt revisions index)
  let written := Flux.OnCluster.write home now "rollback" .kustomization
    (Flux.requestReconcile now object)
  match ← written.attempt with
  | .ok deployment => return deployment
  | .error failure =>
    let _ ← (Flux.OnCluster.restoreSource now pin).attempt
    .fail failure

/-- How a rollback goes on with what it finds. -/
def fluxRollbackGo (home id : String) (revision : Int64) :
    Flux.FluxKind → Json → Program Deployment
  | .kustomization => rollbackKustomization now home id revision
  | .helmRelease =>
    (fluxRewrite home now "rollback" .helmRelease (fluxRollbackChange now id revision)).program

/-- What a rollback has to pass. -/
def fluxRollbackCheck (id : String) (revision : Int64) : Outcome Unit := do
  let _ ← Flux.parseId id
  Rules.checkRevision revision

private theorem program_fluxRollback (home id : String) (revision : Int64) :
    (fluxSearch home "rollback" id (fluxRollbackCheck id revision) fun _ =>
      fluxRollbackGo now home id revision).program =
      (fluxRollback home id revision).program now := by
  rw [fluxSearch_program]
  refine congrArg (Program.call _) (funext fun reply => ?_)
  rcases reply with failure | ⟨⟩
  · rfl
  unfold fluxRollbackCheck
  rcases Flux.parseId id with failure | parsed
  · rfl
  rcases Rules.checkRevision revision with failure | ⟨⟩
  · rfl
  refine congrArg (Flux.OnCluster.resolve home "rollback" id >>= ·) (funext fun found => ?_)
  obtain ⟨_ | _, object⟩ := found
  · rfl
  · simp only [fluxRollbackGo, Rewrite.program, fluxRewrite, fluxRollbackChange]
    rcases Listing.historyIndex id revision (Flux.revisionsOf now .helmRelease object).length with
      failure | index <;> rfl

/-- The search that an operation is. -/
def search : Operation → Search
  | applicationUpdate home id update =>
    applicationSearch home now "update" id (Application.checkUpdate update) fun app =>
      .ok (Application.applyUpdate app update)
  | applicationScale home id replicas =>
    applicationSearch home now "scale" id
      (do Rules.checkName "id" id; Rules.checkReplicas replicas) fun app =>
        Application.setReplicas app replicas
  | applicationRollback home id revision =>
    applicationSearch home now "rollback" id
      (do Rules.checkName "id" id; Rules.checkRevision revision) fun app =>
        Application.OnCluster.pinned app id revision
  | compositeUpdate kind id update => compositeSearch now kind id update
  | fluxUpdate home id update =>
    fluxSearch home "update" id (fluxUpdateCheck id update) fun asked kind =>
      (fluxRewrite home now "update" kind fun object =>
        Flux.applyUpdate kind object update asked.1 asked.2).program
  | fluxScale home id replicas =>
    fluxSearch home "scale" id (fluxScaleCheck id replicas) fun _ kind =>
      (fluxRewrite home now "scale" kind (fluxScaleChange replicas kind)).program
  | fluxRollback home id revision =>
    fluxSearch home "rollback" id (fluxRollbackCheck id revision) fun _ =>
      fluxRollbackGo now home id revision

/-- Every operation is a search for its object. -/
theorem program_eq_search (operation : Operation) :
    operation.program now = (operation.search now).program := by
  cases operation with
  | applicationUpdate home id update =>
    rw [search, applicationSearch_program]
    rfl
  | applicationScale home id replicas =>
    rw [search, applicationSearch_program]
    refine congrArg (Program.call _) (funext fun reply => ?_)
    rcases reply with failure | ⟨⟩
    · rfl
    rcases Rules.checkName "id" id with failure | ⟨⟩
    · rfl
    rcases Rules.checkReplicas replicas with failure | ⟨⟩ <;> rfl
  | applicationRollback home id revision =>
    rw [search, applicationSearch_program]
    refine congrArg (Program.call _) (funext fun reply => ?_)
    rcases reply with failure | ⟨⟩
    · rfl
    rcases Rules.checkName "id" id with failure | ⟨⟩
    · rfl
    rcases Rules.checkRevision revision with failure | ⟨⟩ <;> rfl
  | compositeUpdate kind id update => exact (compositeSearch_program now kind id update).symm
  | fluxUpdate home id update => exact (program_fluxUpdate now home id update).symm
  | fluxScale home id replicas => exact (program_fluxScale now home id replicas).symm
  | fluxRollback home id revision => exact (program_fluxRollback now home id revision).symm

end Operation

end DeploymentGateway
