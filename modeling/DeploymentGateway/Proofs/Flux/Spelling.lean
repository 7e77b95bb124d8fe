import DeploymentGateway.Proofs.Footprint.Flux
import DeploymentGateway.Proofs.Listing.Reading
import DeploymentGateway.Proofs.Program.Alike
/-!
The two spellings of an id. A bare name and the id of the deployment that it finds go different ways through the
checks of an operation, but lead to the same object, and what is done with it differs in the words of failures
at most.
-/

set_option autoImplicit false

namespace DeploymentGateway.Flux

open Cluster OnCluster

/-- What can be asked of a deployment by its id. -/
inductive Asked where
  | get
  | status
  | history
  | logs (options : LogOptions)
  | update (change : DeploymentUpdate)
  | scale (replicas : Int32)
  | rollback (revision : Int64)
  | delete

namespace Asked

abbrev Result : Asked → Type
  | get | update _ | scale _ | rollback _ => Deployment
  | status => StatusDetail
  | history => History
  | logs _ => DeploymentLogs
  | delete => Unit

/-- The program for what is asked, under an id. -/
def program (home : String) (now : Time.Instant) (id : String) : (asked : Asked) → Program asked.Result
  | get => (operations home now).getDeployment id
  | status => (operations home now).deploymentStatus id
  | history => (operations home now).deploymentHistory id
  | logs options => (operations home now).deploymentLogs id options
  | .update change => (operations home now).updateDeployment id change
  | scale replicas => (operations home now).scaleDeployment id replicas
  | rollback revision => (operations home now).rollbackDeployment id revision
  | delete => (operations home now).deleteDeployment id

end Asked

variable {home name : String} {now : Time.Instant} {memory : Memory} {kind : FluxKind} {object : Json}

/-- A name has no colon in it, so it is read as a bare one. -/
theorem parseId_of_isName (valid : Rules.IsName name) : parseId name = .ok (none, name) := by
  have uncut : Text.cutFirst? ':' name = none := by
    rcases cut : Text.cutFirst? ':' name with _ | ⟨word, rest⟩
    · rfl
    · have mem : ':' ∈ name.toList := by
        rw [Text.eq_append_of_cutFirst? cut]
        simp
      exact absurd (valid.plain ':' mem) (by decide)
  have checked : Rules.checkName "id" name = .ok () := Rules.checkName_ok_iff.mpr valid
  simp only [parseId, uncut]
  change (Rules.checkName "id" name >>= fun _ => _) = _
  rw [checked]
  rfl

/-! What is done with an object, under two ids. -/

section

variable (id other : String)

private theorem sameAnswer_historyIndex (revision : Int64) (available : Nat) :
    SameAnswer (Listing.historyIndex id revision available)
      (Listing.historyIndex other revision available) := by
  unfold Listing.historyIndex
  dsimp only
  split
  · exact .ok _
  · exact .error rfl

private theorem alike_pinSource (revision : String) :
    (pinSource now id object revision).Alike (pinSource now other object revision) := by
  unfold pinSource
  split
  · exact .refl _
  · exact .done (.error rfl)

private theorem alike_fluxRollbackGo (revision : Int64) :
    (Operation.fluxRollbackGo now home id revision kind object).Alike
      (Operation.fluxRollbackGo now home other revision kind object) := by
  cases kind with
  | kustomization =>
    refine .bind (.done (sameAnswer_historyIndex id other revision _)) fun index => ?_
    exact .bind (alike_pinSource id other _) fun pin => .refl _
  | helmRelease =>
    refine .bind (.done ?_) fun changed => .refl _
    have same := sameAnswer_historyIndex id other revision (revisionsOf now .helmRelease object).length
    generalize first : Listing.historyIndex id revision (revisionsOf now .helmRelease object).length = a at same
    generalize second : Listing.historyIndex other revision (revisionsOf now .helmRelease object).length = b at same
    simp only [fluxRewrite, Operation.fluxRollbackChange, first, second]
    cases same with
    | ok index => exact .refl _
    | error same => exact .error same

end

/-! Two ids that lead to one object. -/

section

variable {id other operation : String} {β α : Type}

/-- Both ids find the object. -/
structure Both (home id other : String) (memory : Memory) (kind : FluxKind) (object : Json) : Prop where
  first : Addressed home id memory.cluster.objects kind object
  second : Addressed home other memory.cluster.objects kind object

variable (both : Both home id other memory kind object)

include both

private theorem sameRun_found {go go' : FluxKind × Json → Program α}
    (alike : (go (kind, object)).Alike (go' (kind, object))) (operation : String) :
    SameRun ((resolve home operation id >>= go).runInMemory now memory)
      ((resolve home operation other >>= go').runInMemory now memory) := by
  rw [Program.runInMemory_bind, Program.runInMemory_bind, resolve_of_addressed operation both.first,
    resolve_of_addressed operation both.second]
  exact alike.sameRun now memory

private theorem sameRun_searched {check check' : Outcome β} (same : check' = check)
    {go go' : β → FluxKind → Json → Program Deployment}
    (alike : ∀ b, (go b kind object).Alike (go' b kind object)) (operation : String) :
    SameRun ((fluxSearch home operation id check go).program.runInMemory now memory)
      ((fluxSearch home operation other check' go').program.runInMemory now memory) := by
  subst same
  rw [fluxSearch_program, fluxSearch_program]
  rcases check' with failure | b
  · exact ⟨.error rfl, rfl⟩
  · exact sameRun_found both (alike b) operation

end

/-- Under a valid bare name and under the id of the deployment that it finds, everything goes alike. -/
private theorem sameRun_asked (valid : Rules.IsName name)
    (addressed : Addressed home name memory.cluster.objects kind object) (asked : Asked) :
    SameRun ((asked.program home now name).runInMemory now memory)
      ((asked.program home now (deploymentId kind name)).runInMemory now memory) := by
  have checked : Rules.checkName "id" name = .ok () := Rules.checkName_ok_iff.mpr valid
  have bare := parseId_of_isName valid
  have whole := parseId_deploymentId checked kind
  have both : Both home name (deploymentId kind name) memory kind object := by
    obtain ⟨_, _, parsed, -, stored⟩ := id addressed
    rw [bare] at parsed
    cases parsed
    exact ⟨addressed, addressed_deploymentId checked stored⟩
  cases asked with
  | get => exact sameRun_found both (.refl _) "get"
  | status => exact sameRun_found both (.refl _) "status"
  | history => exact sameRun_found both (.refl _) "history"
  | logs options =>
    simp only [Asked.program, operations, deploymentLogs, bare, whole]
    rcases Rules.checkLogOptions options with failure | ⟨⟩
    · exact ⟨.error rfl, rfl⟩
    · refine sameRun_found both (.bind (.refl _) fun _ => .perform fun reply => ?_) "logs"
      exact .bind (.expect (kind_deploymentFailure _ _ _ _)) fun _ => .refl _
  | update change =>
    have search (id : String) := Operation.program_eq_search now (.fluxUpdate home id change)
    have same : Operation.fluxUpdateCheck (deploymentId kind name) change =
        Operation.fluxUpdateCheck name change := by
      simp only [Operation.fluxUpdateCheck, bare, whole]
      rfl
    change SameRun (((Operation.fluxUpdate home name change).program now).runInMemory now memory)
      (((Operation.fluxUpdate home _ change).program now).runInMemory now memory)
    rw [search, search]
    exact sameRun_searched both same (fun b => .refl _) "update"
  | scale replicas =>
    simp only [Asked.program, operations, scaleDeployment, bare, whole]
    rcases Rules.checkReplicas replicas with failure | ⟨⟩
    · exact ⟨.error rfl, rfl⟩
    cases kind with
    | helmRelease => exact sameRun_found both (.refl _) "scale"
    | kustomization =>
      -- The canonical id is refused by its kind, the bare name only by the object that it finds.
      change SameRun ((resolve home "scale" name >>= _).runInMemory now memory)
        (.error scaleUnsupported, memory)
      rw [Program.runInMemory_bind, resolve_of_addressed "scale" both.first]
      exact ⟨.error rfl, rfl⟩
  | rollback revision =>
    have search (id : String) := Operation.program_eq_search now (.fluxRollback home id revision)
    have same : Operation.fluxRollbackCheck (deploymentId kind name) revision =
        Operation.fluxRollbackCheck name revision := by
      simp only [Operation.fluxRollbackCheck, bare, whole]
      rfl
    change SameRun (((Operation.fluxRollback home name revision).program now).runInMemory now memory)
      (((Operation.fluxRollback home _ revision).program now).runInMemory now memory)
    rw [search, search]
    exact sameRun_searched both same (fun _ => alike_fluxRollbackGo _ _ revision) "rollback"
  | delete =>
    refine sameRun_found both (.bind (.refl _) fun _ => .perform fun reply => ?_) "delete"
    exact .bind (.expect (kind_deploymentFailure _ _ _ _)) fun _ => .refl _

/-- Where a deployment and what it may be applied from are stored. -/
def Meant (home : String) (kind : FluxKind) (name : String) (key : ObjectKey) : Prop :=
  key = Store.key kind.resource home name ∨ key.plural = gitRepositoryKind.plural

/-- Under the id of a deployment only what is meant by it changes. -/
private theorem confined_asked {objects : Objects} (named : Named objects)
    (checked : Rules.checkName "id" name = .ok ()) (asked : Asked) :
    (asked.program home now (deploymentId kind name)).Confined now (Meant home kind name) objects := by
  have here : ∀ found object, Addressed home (deploymentId kind name) objects found object →
      Meant home kind name (Store.key found.resource home (nameOf object)) := by
    rintro found object ⟨wanted, own, parsed, first, stored⟩
    rw [parseId_deploymentId checked kind] at parsed
    cases parsed
    obtain rfl := List.mem_singleton.mp (List.mem_of_find?_eq_some first)
    rw [named _ _ stored]
    exact .inl rfl
  have source : ∀ object, Addressed home (deploymentId kind name) objects .kustomization object →
      (sourceRef .kustomization object).kind = gitRepositoryKind.kind →
        Meant home kind name (repositoryKey object) := fun _ _ _ => .inr rfl
  have read (action : Action) (reads : action.reads = true) :
      (action.program (operations home now)).Confined now (Meant home kind name) objects :=
    (readOnly_action home now reads).confined now _ _
  cases asked with
  | get => exact read (.getDeployment _) rfl
  | status => exact read (.deploymentStatus _) rfl
  | history => exact read (.deploymentHistory _) rfl
  | logs options => exact read (.deploymentLogs _ options) rfl
  | update change => exact confined_updateDeployment here named change
  | scale replicas => exact confined_scaleDeployment here named replicas
  | rollback revision => exact confined_rollbackDeployment here source named revision
  | delete => exact confined_deleteDeployment here source

/-- A valid bare name and the id of the deployment that it finds can stand for each other: whatever is asked, under
both the answer is the same, or a failure of the same kind, and the same objects are left. Where a kustomization
of the name is stored, that is the deployment meant, whether or not there is a helm release of the name; and but
for repositories no other object changes, so not the helm release either. -/
theorem bare_name_interchangeable (home : String) {memory after : Memory}
    (reachable : memory.cluster.Reachable) {name : String} (valid : Rules.IsName name)
    {now : Time.Instant} {d : Deployment}
    (found : ((operations home now).getDeployment name).runInMemory now memory = (.ok d, after)) :
    (∀ (asked : Asked) (later : Time.Instant),
      SameRun ((asked.program home later name).runInMemory later memory)
        ((asked.program home later d.id).runInMemory later memory)) ∧
      (d.id = if (memory.cluster.object? kustomizationKind home name).isSome then
        "kustomization:" ++ name else "helmrelease:" ++ name) ∧
      ∀ (kind : FluxKind) (asked : Asked) (later : Time.Instant), d.id = deploymentId kind name →
        ChangesOnly (Meant home kind name) memory.cluster.objects
          ((asked.program home later name).runInMemory later memory).2.cluster.objects := by
  obtain ⟨kind, object, addressed, rfl⟩ := addressed_of_getDeployment found
  obtain ⟨wanted, own, parsed, first, stored⟩ := id addressed
  rw [parseId_of_isName valid] at parsed
  cases parsed
  have named : nameOf object = name := reachable.named _ _ stored
  have canonical : (toDeployment now kind object).id = deploymentId kind name := by
    rw [← named]
    rfl
  rw [canonical]
  have alike (asked : Asked) (later : Time.Instant) :
      SameRun ((asked.program home later name).runInMemory later memory)
        ((asked.program home later (deploymentId kind name)).runInMemory later memory) :=
    sameRun_asked valid addressed asked
  have stays (meant : FluxKind) (asked : Asked) (later : Time.Instant)
      (same : deploymentId kind name = deploymentId meant name) :
      ChangesOnly (Meant home meant name) memory.cluster.objects
        ((asked.program home later name).runInMemory later memory).2.cluster.objects := by
    have checked : Rules.checkName "id" name = .ok () := Rules.checkName_ok_iff.mpr valid
    have parsed := parseId_deploymentId checked kind
    rw [same, parseId_deploymentId checked meant] at parsed
    cases parsed
    rw [(alike asked later).memory]
    exact confined_asked reachable.named checked asked memory _ _ rfl (Program.runs_runInMemory _ _)
  refine ⟨alike, ?_, stays⟩
  rw [Store.object?]
  rcases kustomization : memory.cluster.objects.get? (Store.key kustomizationKind home name) with _ | other
  · rw [fluxKinds, FluxKind.all,
      List.find?_cons_of_neg (by simp [FluxKind.resource, kustomization])] at first
    obtain rfl := List.mem_singleton.mp (List.mem_of_find?_eq_some first)
    rfl
  · rw [fluxKinds, FluxKind.all,
      List.find?_cons_of_pos (by simp [FluxKind.resource, kustomization])] at first
    cases first
    rfl

/-- A name that a kustomization and a helm release share means the kustomization, and the helm release stays. -/
theorem bare_name_interchangeable_paired :
    pairedMemory.cluster.Reachable ∧ Rules.IsName "web" ∧ ∃ d after,
      ((operations "flux-system" ⟨1, 0⟩).getDeployment "web").runInMemory ⟨1, 0⟩ pairedMemory =
        (.ok d, after) ∧
      (∀ (asked : Asked) (later : Time.Instant),
        SameRun ((asked.program "flux-system" later "web").runInMemory later pairedMemory)
          ((asked.program "flux-system" later d.id).runInMemory later pairedMemory)) ∧
      d.id = "kustomization:web" ∧
      (pairedMemory.cluster.object? helmReleaseKind "flux-system" "web").isSome = true ∧
      ∀ (asked : Asked) (later : Time.Instant),
        ((asked.program "flux-system" later "web").runInMemory later pairedMemory).2.cluster.object?
            helmReleaseKind "flux-system" "web" =
          pairedMemory.cluster.object? helmReleaseKind "flux-system" "web" := by
  have reachable : pairedMemory.cluster.Reachable := .seed _ _ (.seed _ _ .empty)
  have valid : Rules.IsName "web" :=
    Rules.checkName_ok_iff.mp (show Rules.checkName "id" "web" = .ok () by decide)
  obtain ⟨d, after, found⟩ : ∃ d after,
      ((operations "flux-system" ⟨1, 0⟩).getDeployment "web").runInMemory ⟨1, 0⟩ pairedMemory =
        (.ok d, after) := ⟨_, _, rfl⟩
  obtain ⟨alike, canonical, changes⟩ := bare_name_interchangeable "flux-system" reachable valid found
  have apart : ¬ Meant "flux-system" .kustomization "web" (Store.key helmReleaseKind "flux-system" "web") := by
    unfold Meant
    decide
  exact ⟨reachable, valid, d, after, found, alike, canonical, by decide, fun asked later =>
    changes .kustomization asked later canonical _ apart⟩

end DeploymentGateway.Flux
