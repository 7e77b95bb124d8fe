import DeploymentGateway.Proofs.Containment.Object
import DeploymentGateway.Proofs.Listing.Reading
/-!
Where deployments take their manifests from stays inside of the repository: no operation ever makes an application
or a kustomization that names another directory, or lets one name such, whatever else is underway at the same time.
-/

set_option autoImplicit false

namespace DeploymentGateway

open Cluster Containment

namespace Application.OnCluster

variable {home : String} {now : Time.Instant}

private theorem upholds_search {operation id : String} {check : Outcome Unit} {change : Json → Outcome Json}
    (keeps : ∀ object changed, check = .ok () → Contained kind.plural object → change object = .ok changed →
      Contained kind.plural changed) :
    (applicationSearch home now operation id check change).program.Upholds Containment.rule := by
  refine Search.upholds_program _ fun places found place mem object contained => ?_
  obtain ⟨⟨⟩, checked, found⟩ := Outcome.bind_eq_ok.mp found
  obtain ⟨⟨⟩, -, found⟩ := Outcome.bind_eq_ok.mp found
  cases found
  obtain rfl := List.mem_singleton.mp mem
  exact Rewrite.upholds_program _ fun changed made => keeps object changed checked contained made

theorem upholds_action (home : String) (now : Time.Instant) (action : Action) :
    (action.program (operations home now)).Upholds Containment.rule := by
  by_cases reads : action.reads = true
  · exact (readOnly_action home now reads).upholds
  cases action with
  | uploadPackage upload =>
    have reads : (uploadPackage upload).ReadOnly := by simp [uploadPackage]
    exact reads.upholds
  | deletePackage id =>
    have reads : (deletePackage id).ReadOnly := by simp [deletePackage]
    exact reads.upholds
  | createDeployment request =>
    exact Program.upholds_checkpoint <| Program.upholds_check fun app built => Program.upholds_connect <|
      Program.upholds_create (contained_of_build built) fun _ => Program.upholds_expect fun _ => .done _
  | updateDeployment id update =>
    change ((Operation.applicationUpdate home id update).program now).Upholds _
    rw [Operation.program_eq_search]
    refine upholds_search fun object changed checked contained made => ?_
    cases made
    exact contained_applyUpdate (rules_of_checkUpdate checked) contained
  | deleteDeployment id =>
    refine Program.upholds_checkpoint <| Program.upholds_check fun _ _ => Program.upholds_connect <|
      Program.upholds_delete fun reply => ?_
    rcases reply with error | ⟨⟩
    · exact .done _
    · exact .done _
  | scaleDeployment id replicas =>
    change ((Operation.applicationScale home id replicas).program now).Upholds _
    rw [Operation.program_eq_search]
    exact upholds_search fun object changed _ contained made => contained_of_setReplicas contained made
  | rollbackDeployment id revision =>
    change ((Operation.applicationRollback home id revision).program now).Upholds _
    rw [Operation.program_eq_search]
    exact upholds_search fun object changed _ contained made => contained_of_pinned contained made
  | _ => exact absurd rfl reads

end Application.OnCluster

namespace Flux.OnCluster

variable {home : String} {now : Time.Instant}

private theorem upholds_search {β : Type} {operation id : String} {check : Outcome β}
    {go : β → FluxKind → Json → Program Deployment}
    (goes : ∀ b kind object, check = .ok b → Contained kind.resource.plural object →
      (go b kind object).Upholds Containment.rule) :
    (fluxSearch home operation id check go).program.Upholds Containment.rule := by
  refine Search.upholds_program _ fun places found place mem object contained => ?_
  obtain ⟨b, wanted, name, checked, -, rfl⟩ := fluxSearch_places home found
  obtain ⟨kind, -, rfl⟩ := List.mem_map.mp mem
  exact goes b kind object checked contained

private theorem upholds_rewrite {operation : String} {kind : FluxKind} {object : Json}
    {change : Json → Outcome Json}
    (keeps : ∀ changed, change object = .ok changed → Contained kind.resource.plural changed) :
    ((fluxRewrite home now operation kind change).program object).Upholds Containment.rule := by
  refine Rewrite.upholds_program _ fun changed made => ?_
  obtain ⟨between, edited, same⟩ := Outcome.bind_eq_ok.mp made
  cases same
  exact contained_requestReconcile kind (keeps between edited) now

private theorem upholds_createKustomization (request : DeploymentRequest) :
    (createKustomization home now request).Upholds Containment.rule := by
  refine Program.upholds_check fun ⟨source, repository⟩ _ => Program.upholds_check fun kustomization built =>
    Program.upholds_connect ?_
  have made : Contained kustomizationKind.plural kustomization := contained_of_buildKustomization built
  rcases repository with _ | repository
  case' some =>
    refine Program.upholds_create (contained_gitRepository repository) fun _ =>
      Program.upholds_expect fun _ => ?_
  -- What follows does not depend on whether a repository was made.
  all_goals
    refine Program.upholds_create made fun reply => ?_
    rcases reply with error | created
    · refine Program.upholds_check fun url _ => ?_
      split
      · exact Program.upholds_delete fun _ => .done _
      · exact .done _
    · exact .done _

private theorem upholds_removeOwnedSource (name : String) (object : Json) :
    (removeOwnedSource name object).Upholds Containment.rule := by
  unfold removeOwnedSource
  dsimp only
  split
  · refine Program.upholds_get (fun _ => .done _) fun repository _ => ?_
    dsimp only
    split
    · exact Program.upholds_delete fun _ => .done _
    · exact .done _
  · exact .done _

private theorem upholds_pinSource (id : String) (object : Json) (revision : String) :
    (pinSource now id object revision).Upholds Containment.rule := by
  unfold pinSource
  split
  · dsimp only
    split
    · exact .done _
    · refine Program.upholds_connect <| Program.upholds_get (fun _ => .done _) fun repository _ => ?_
      exact Program.upholds_update (contained_gitRepository _) fun _ =>
        Program.upholds_expect fun _ => .done _
  · exact .done _

private theorem upholds_restoreSource (pin : Pin) :
    (restoreSource now pin).Upholds Containment.rule := by
  refine Program.upholds_connect <| Program.upholds_get (fun _ => .done _) fun repository _ => ?_
  exact Program.upholds_update (contained_gitRepository _) fun _ =>
    Program.upholds_expect fun _ => .done _

private theorem upholds_rollbackKustomization {id : String} {revision : Int64} {object : Json}
    (contained : Contained kustomizationKind.plural object) :
    (Operation.rollbackKustomization now home id revision object).Upholds Containment.rule := by
  refine Program.upholds_check fun index _ => (upholds_pinSource id object _).bind fun pin => ?_
  have written : (write home now "rollback" .kustomization (requestReconcile now object)).Upholds
      Containment.rule :=
    Program.upholds_connect <| Program.upholds_update
      (contained_requestReconcile .kustomization contained now) fun _ =>
        Program.upholds_expect fun _ => .done _
  refine written.attempt.bind fun outcome => ?_
  rcases outcome with failure | deployment
  · exact (upholds_restoreSource pin).attempt.bind fun _ => .done _
  · exact .done _

theorem upholds_action (home : String) (now : Time.Instant) (action : Action) :
    (action.program (operations home now)).Upholds Containment.rule := by
  by_cases reads : action.reads = true
  · exact (readOnly_action home now reads).upholds
  cases action with
  | uploadPackage upload =>
    have reads : (uploadPackage upload).ReadOnly := by simp [uploadPackage]
    exact reads.upholds
  | deletePackage id =>
    have reads : (deletePackage id).ReadOnly := by simp [deletePackage]
    exact reads.upholds
  | createDeployment request =>
    refine Program.upholds_checkpoint <| Program.upholds_check fun _ _ => Program.upholds_check fun _ _ =>
      Program.upholds_check fun kind _ => ?_
    cases kind with
    | kustomization => exact upholds_createKustomization request
    | helmRelease =>
      exact Program.upholds_check fun release _ => Program.upholds_connect <|
        Program.upholds_create (contained_helmRelease release) fun _ =>
          Program.upholds_expect fun _ => .done _
  | updateDeployment id update =>
    change ((Operation.fluxUpdate home id update).program now).Upholds _
    rw [Operation.program_eq_search]
    refine upholds_search fun asked kind object checked contained => upholds_rewrite fun changed made => ?_
    obtain ⟨-, inside, -⟩ := Operation.fluxUpdateCheck_eq_ok checked
    exact contained_of_applyUpdate (fun text given => Rules.checkPath_ok_iff.mp (inside text given)) contained made
  | deleteDeployment id =>
    refine Program.upholds_checkpoint <| (readOnly_resolve home "delete" id).upholds.bind fun found => ?_
    obtain ⟨kind, object⟩ := found
    refine Program.upholds_connect <| Program.upholds_delete fun reply => Program.upholds_expect fun _ => ?_
    split
    · exact upholds_removeOwnedSource _ object
    · exact .done _
  | scaleDeployment id replicas =>
    change ((Operation.fluxScale home id replicas).program now).Upholds _
    rw [Operation.program_eq_search]
    refine upholds_search fun _ kind object _ _ => upholds_rewrite fun changed made => ?_
    cases kind with
    | kustomization => cases made
    | helmRelease => exact contained_helmRelease changed
  | rollbackDeployment id revision =>
    change ((Operation.fluxRollback home id revision).program now).Upholds _
    rw [Operation.program_eq_search]
    refine upholds_search fun _ kind object _ contained => ?_
    cases kind with
    | kustomization => exact upholds_rollbackKustomization contained
    | helmRelease => exact upholds_rewrite fun changed _ => contained_helmRelease changed
  | _ => exact absurd rfl reads

end Flux.OnCluster

/-- The operations of adapters that deploy from repositories, without what they result in. -/
inductive DeploysFromRepository : Program Unit → Prop where
  | action (settings : Settings) (known : settings.kind = .argocd ∨ settings.kind = .flux)
    (now : Time.Instant) (action : Action) :
    DeploysFromRepository (action.program (settings.operations now) >>= fun _ => pure ())

private theorem upholds_of_deploysFromRepository {p : Program Unit} (deploys : DeploysFromRepository p) :
    p.Upholds Containment.rule := by
  obtain ⟨settings, known, now, action⟩ := deploys
  have upholds : (action.program (settings.operations now)).Upholds Containment.rule := by
    cases settings with
    | argocd home => exact Application.OnCluster.upholds_action home now action
    | flux home => exact Flux.OnCluster.upholds_action home now action
    | argocdRest _ _ _ _ | crossplane _ | helm _ _ => simp [Settings.kind] at known
  exact upholds.bind fun _ => .done _

/-- Where no stored application or kustomization names a directory that is not accepted at first, none ever does:
whatever operations begin, in whatever order their calls are made, whoever of their callers gives up, and whatever
the cluster refuses. And what is accepted is relative and leads nowhere outside: cut into segments at marks of one
kind or of both, it never leaves the directory that it is resolved in, as far as it is followed. -/
theorem directories_stay_inside :
    (∀ start : Memory, Containment.rule.Holds start.cluster.objects →
      ∀ workload, Workload.Reached DeploysFromRepository start workload →
        Containment.rule.Holds workload.memory.cluster.objects) ∧
    ∀ field value, Rules.checkPath field value = .ok () →
      (∀ c ∈ value.toList.head?, c ≠ '/' ∧ c ≠ '\\') ∧
      ∀ separates ∈ [(· == '/'), Rules.isPathMark], ∀ root followed,
        root <+: Rules.walk root ((Text.pieces separates value.toList).take followed) := by
  constructor
  · intro start holds workload reached
    exact (reached.lawful holds fun _ deploys => upholds_of_deploysFromRepository deploys).holds
  · intro field value accepted
    have inside := Rules.checkPath_ok_iff.mp accepted
    refine ⟨inside.relative, fun separates known root followed => ?_⟩
    have marks : ∀ c, separates c = true → Rules.isPathMark c = true := by
      rcases List.mem_pair.mp known with rfl | rfl
      · intro c slash
        simp [Rules.isPathMark, slash]
      · exact fun _ mark => mark
    exact Rules.prefix_walk (fun up => inside.level_of_pieces marks (List.mem_of_mem_take up)) root

/-- A cluster with a kustomization that names a directory. -/
def appsMemory : Memory where
  cluster := Store.empty.seed Flux.kustomizationKind
    ((webIn "flux-system").set (.string "./apps") ["spec", "path"])
  releases := .empty

/-- An update that names another directory. -/
def overlay : DeploymentUpdate where
  packageId := none
  values := .empty
  labels := .empty
  extensions := .ofList [("path", .string "overlays/prod")]

/-- What is updated by it. -/
def overlaid (memory : Memory) : Outcome Deployment × Memory :=
  (((Settings.flux "flux-system").operations ⟨1, 0⟩).updateDeployment "web" overlay).runInMemory ⟨1, 0⟩ memory

/-- An update to another directory comes to the cluster. -/
theorem directories_stay_inside_overlay :
    Containment.rule.Holds appsMemory.cluster.objects ∧
    ∃ left, Workload.Reached DeploysFromRepository appsMemory ⟨(overlaid appsMemory).2, [left]⟩ ∧
      Containment.rule.Holds (overlaid appsMemory).2.cluster.objects ∧
      ((overlaid appsMemory).2.cluster.object? Flux.kustomizationKind "flux-system" "web").bind
        (fun object => object.string?At ["spec", "path"]) = some "overlays/prod" ∧
      ∀ root, root <+: Rules.walk root
        ((Text.pieces (· == '/') "overlays/prod".toList).take 1) := by
  have here : Rules.checkPath "extensions.path" "./apps" = .ok () := by decide
  have there : Rules.checkPath "extensions.path" "overlays/prod" = .ok () := by decide
  have holds : Containment.rule.Holds appsMemory.cluster.objects := by
    have nothing : Containment.rule.Holds Store.empty.objects := by rintro _ _ ⟨⟩
    refine nothing.insert (Store.key Flux.kustomizationKind "flux-system" "web") ?_
    refine contained_of_isInside kustomization_mem_sourcePlaces (Rules.checkPath_ok_iff.mp here) fun found read => ?_
    exact Option.some.inj (read.symm.trans rfl)
  have run : (((Settings.flux "flux-system").operations ⟨1, 0⟩).updateDeployment "web" overlay).Runs ⟨1, 0⟩
      appsMemory (overlaid appsMemory).1 (overlaid appsMemory).2 := Program.runs_runInMemory _ appsMemory
  obtain ⟨left, reached⟩ := Workload.Reached.of_runs run <| Workload.Reached.start.step <| .begin _ <|
    DeploysFromRepository.action (.flux "flux-system") (.inr rfl) ⟨1, 0⟩ (.updateDeployment "web" overlay)
  refine ⟨holds, left, reached, directories_stay_inside.1 _ holds _ reached, by decide +kernel, fun root => ?_⟩
  exact (directories_stay_inside.2 _ _ there).2 _ List.mem_cons_self root 1

end DeploymentGateway
