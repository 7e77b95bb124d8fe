import DeploymentGateway.Proofs.Refusal.Action
import DeploymentGateway.Proofs.Rules
/-!
What comes before the first call to a back end. Every operation asks whether its caller still waits, and
then checks what it was asked for; only after that does it set up a client. So a caller who has given up
and input that breaks a rule are turned away without the back end.
-/

set_option autoImplicit false

namespace DeploymentGateway

open Rules

/-! What the rules are for each action. -/

/-- An id of a deployment is a name, which may have the word for a kind before it, in any case of letters
and with a colon. -/
def Flux.IsId (id : String) : Prop :=
  IsName id ∨ ∃ word name, id = word ++ ":" ++ name ∧ IsName name ∧
    (Text.lowercase word = "kustomization" ∨ Text.lowercase word = "helmrelease")

namespace AdapterKind

/-- An id that deployments behind adapters of a kind can have. -/
def IsId : AdapterKind → String → Prop
  | flux, id => Flux.IsId id
  | _, id => IsName id

/-- A request for a deployment may say where in a repository its manifests are. -/
def CreatesFromPath : AdapterKind → DeploymentRequest → Prop
  | argocd, _ | argocdRest, _ => True
  | flux, request => Flux.requestedKind request ≠ .ok .helmRelease
  | crossplane, _ | helm, _ => False

/-- An update may say where in a repository the manifests of a deployment are. -/
def UpdatesPath : AdapterKind → Prop
  | argocd | argocdRest | flux => True
  | crossplane | helm => False

/-- A package is uploaded under a name, where packages are not made up from what is deployed. -/
def NamesUploads : AdapterKind → Prop
  | crossplane | helm => True
  | argocd | argocdRest | flux => False

end AdapterKind

/-- What an action asks for breaks a rule that adapters of a kind have for it. -/
def Action.Violates (kind : AdapterKind) : Action → Prop
  | createDeployment request => ¬ IsName request.name ∨ ¬ IsName request.namespace ∨
      kind.CreatesFromPath request ∧ ¬ HasPathInside request.extensions
  | updateDeployment id update => ¬ kind.IsId id ∨
      kind.UpdatesPath ∧ ¬ HasPathInside update.extensions
  | scaleDeployment id replicas => ¬ kind.IsId id ∨ replicas < 0
  | rollbackDeployment id revision => ¬ kind.IsId id ∨ revision < 0
  | deploymentLogs id options => ¬ kind.IsId id ∨ ¬ AreLogOptions options
  | getDeployment id | deleteDeployment id | deploymentStatus id | deploymentHistory id =>
    ¬ kind.IsId id
  | uploadPackage upload => kind.NamesUploads ∧ ¬ IsName upload.name
  | listPackages _ | getPackage _ | deletePackage _ | listDeployments _ | health => False

namespace Program

variable {α β : Type}

/-- A program refuses its input, without any call. -/
def Refuses (p : Program α) : Prop :=
  ∃ failure, failure.kind = .validation ∧ p = done (.error failure)

theorem Refuses.bind {p : Program α} (refuses : p.Refuses) (f : α → Program β) :
    (p >>= f).Refuses := by
  obtain ⟨failure, invalid, rfl⟩ := refuses
  exact ⟨failure, invalid, rfl⟩

/-- After a strict check it is enough to refuse what has passed it. -/
theorem refuses_check {outcome : Outcome α} (strict : outcome.Strict) {f : α → Program β}
    (next : ∀ a, outcome = .ok a → (f a).Refuses) : (ofOutcome outcome >>= f).Refuses := by
  rcases outcome with failure | a
  · exact ⟨failure, strict failure rfl, rfl⟩
  · exact next a rfl

/-- A program asks first whether its caller still waits, and then refuses what is bad. -/
def Guards (p : Program α) (bad : Prop) : Prop :=
  ∃ rest : Program α, p = (checkpoint >>= fun _ => rest) ∧ (bad → rest.Refuses)

theorem guards_checkpoint {rest : Program α} {bad : Prop} (refuses : bad → rest.Refuses) :
    (checkpoint >>= fun _ => rest).Guards bad :=
  ⟨rest, rfl, refuses⟩

theorem Guards.starts {p : Program α} {bad : Prop} (guards : p.Guards bad)
    {exchanges : List AnsweredCall} {outcome : Outcome α} (trace : p.Trace exchanges outcome) :
    ∃ reply rest, exchanges = ⟨.checkpoint, reply⟩ :: rest := by
  obtain ⟨rest, rfl, -⟩ := guards
  cases trace with
  | call reply _ => exact ⟨reply, _, rfl⟩

/-- When its caller has given up, a program that asks ends there. -/
theorem Guards.cancelled {p : Program α} {bad : Prop} (guards : p.Guards bad)
    {exchanges : List AnsweredCall} {outcome : Outcome α} :
    p.Trace (⟨.checkpoint, .error .cancelled⟩ :: exchanges) outcome ↔
      exchanges = [] ∧ outcome = .error .cancelled := by
  obtain ⟨rest, rfl, -⟩ := guards
  constructor
  · rintro (_ | ⟨_, ended⟩)
    cases ended
    exact ⟨rfl, rfl⟩
  · rintro ⟨rfl, rfl⟩
    exact .call _ (.done _)

/-- When its caller waits, a program that asks ends there on what is bad. -/
theorem Guards.refused {p : Program α} {bad : Prop} (guards : p.Guards bad) (isBad : bad) :
    ∃ failure, failure.kind = .validation ∧ ∀ exchanges outcome,
      p.Trace (⟨.checkpoint, .ok ()⟩ :: exchanges) outcome ↔
        exchanges = [] ∧ outcome = .error failure := by
  obtain ⟨rest, rfl, refuses⟩ := guards
  obtain ⟨failure, invalid, rfl⟩ := refuses isBad
  refine ⟨failure, invalid, fun exchanges outcome => ⟨?_, ?_⟩⟩
  · rintro (_ | ⟨_, ended⟩)
    cases ended
    exact ⟨rfl, rfl⟩
  · rintro ⟨rfl, rfl⟩
    exact .call _ (.done _)

/-! The checks that most back ends make in the same way. -/

section

variable {field id : String} {rest : Program α}

theorem refuses_checkName (unnamed : ¬ IsName id) {f : Unit → Program α} :
    (ofOutcome (checkName field id) >>= f).Refuses :=
  refuses_check (checkName_strict field id) fun _ named => absurd (checkName_ok_iff.mp named) unnamed

theorem guards_name :
    Guards (do .checkpoint; .ofOutcome (checkName field id); rest) (¬ IsName id) :=
  guards_checkpoint fun unnamed => refuses_checkName unnamed

theorem guards_replicas {replicas : Int32} :
    Guards (do .checkpoint; .ofOutcome (checkName field id); .ofOutcome (checkReplicas replicas); rest)
      (¬ IsName id ∨ replicas < 0) := by
  refine guards_checkpoint fun violated => refuses_check (checkName_strict field id) fun _ named =>
    refuses_check (checkReplicas_strict replicas) fun _ counted => ?_
  rcases violated with unnamed | negative
  · exact absurd (checkName_ok_iff.mp named) unnamed
  · exact absurd negative (Int32.not_lt.mpr (checkReplicas_ok_iff.mp counted))

theorem guards_revision {revision : Int64} :
    Guards (do .checkpoint; .ofOutcome (checkName field id); .ofOutcome (checkRevision revision); rest)
      (¬ IsName id ∨ revision < 0) := by
  refine guards_checkpoint fun violated => refuses_check (checkName_strict field id) fun _ named =>
    refuses_check (checkRevision_strict revision) fun _ counted => ?_
  rcases violated with unnamed | negative
  · exact absurd (checkName_ok_iff.mp named) unnamed
  · exact absurd negative (Int64.not_lt.mpr (checkRevision_ok_iff.mp counted))

theorem guards_nameAndLogOptions {options : LogOptions} :
    Guards (do .checkpoint; .ofOutcome (checkName field id); .ofOutcome (checkLogOptions options); rest)
      (¬ IsName id ∨ ¬ AreLogOptions options) := by
  refine guards_checkpoint fun violated => refuses_check (checkName_strict field id) fun _ named =>
    refuses_check (checkLogOptions_strict options) fun _ checked => ?_
  rcases violated with unnamed | wrong
  · exact absurd (checkName_ok_iff.mp named) unnamed
  · exact absurd (checkLogOptions_ok_iff.mp checked) wrong

/-- Log options may also be checked first, before something that refuses the id. -/
theorem guards_logOptions {options : LogOptions} {bad : Prop} (refuses : bad → rest.Refuses) :
    Guards (do .checkpoint; .ofOutcome (checkLogOptions options); rest)
      (bad ∨ ¬ AreLogOptions options) := by
  refine guards_checkpoint fun violated =>
    refuses_check (checkLogOptions_strict options) fun _ checked => ?_
  rcases violated with unnamed | wrong
  · exact refuses unnamed
  · exact absurd (checkLogOptions_ok_iff.mp checked) wrong

end

end Program

open Program

namespace Application

theorem strict_build (home : String) (request : DeploymentRequest) :
    (build home request).Strict := by
  simp [build]

theorem rules_of_build {home : String} {request : DeploymentRequest} {app : Json}
    (built : build home request = .ok app) :
    IsName request.name ∧ IsName request.namespace ∧ HasPathInside request.extensions := by
  obtain ⟨_, name, built⟩ := Outcome.bind_eq_ok.mp built
  obtain ⟨_, «namespace», built⟩ := Outcome.bind_eq_ok.mp built
  obtain ⟨_, -, built⟩ := Outcome.bind_eq_ok.mp built
  obtain ⟨text, given, built⟩ := Outcome.bind_eq_ok.mp built
  obtain ⟨_, path, -⟩ := Outcome.bind_eq_ok.mp built
  exact ⟨checkName_ok_iff.mp name, checkName_ok_iff.mp «namespace»,
    hasPathInside_of_checkPath "" given path⟩

theorem strict_checkUpdate (update : DeploymentUpdate) : (checkUpdate update).Strict := by
  simp only [checkUpdate, Outcome.strict_bind_iff, optionalText_strict, true_and]
  intro text _
  cases text <;> simp

theorem rules_of_checkUpdate {update : DeploymentUpdate} (checked : checkUpdate update = .ok ()) :
    HasPathInside update.extensions := by
  obtain ⟨text, given, checked⟩ := Outcome.bind_eq_ok.mp checked
  cases text with
  | none => exact hasPathInside_of_optionalText given nofun
  | some path =>
    obtain ⟨_, inside, -⟩ := Outcome.bind_eq_ok.mp checked
    exact hasPathInside_of_checkPath "" given inside

/-- To build an application from a request refuses a name, a namespace or a path that breaks its rule. -/
theorem guards_build {α : Type} {home : String} {request : DeploymentRequest} {f : Json → Program α} :
    Guards (do .checkpoint; let app ← .ofOutcome (build home request); f app)
      (¬ IsName request.name ∨ ¬ IsName request.namespace ∨
        True ∧ ¬ HasPathInside request.extensions) := by
  refine guards_checkpoint fun violated => refuses_check (strict_build home request) fun app built => ?_
  obtain ⟨name, «namespace», path⟩ := rules_of_build built
  rcases violated with unnamed | unnamed | ⟨-, outside⟩
  · exact absurd name unnamed
  · exact absurd «namespace» unnamed
  · exact absurd path outside

/-- A change to an application is checked before the application is looked for by its id. -/
theorem guards_checkUpdate {α : Type} {id : String} {update : DeploymentUpdate} {rest : Program α}
    (refuses : ¬ IsName id → rest.Refuses) :
    Guards (do .checkpoint; .ofOutcome (checkUpdate update); rest)
      (¬ IsName id ∨ True ∧ ¬ HasPathInside update.extensions) := by
  refine guards_checkpoint fun violated => refuses_check (strict_checkUpdate update) fun _ checked => ?_
  rcases violated with unnamed | ⟨-, outside⟩
  · exact refuses unnamed
  · exact absurd (rules_of_checkUpdate checked) outside

namespace OnCluster

theorem application_refuses {home operation id : String} (unnamed : ¬ IsName id) :
    (application home operation id).Refuses :=
  refuses_checkName unnamed

theorem guards_action (home : String) (now : Time.Instant) (action : Action) :
    (action.program (operations home now)).Guards (action.Violates .argocd) := by
  cases action with
  | createDeployment request => exact guards_build
  | updateDeployment id update =>
    exact guards_checkUpdate fun unnamed => (application_refuses unnamed).bind _
  | getDeployment id | deploymentStatus id | deploymentHistory id =>
    exact guards_checkpoint fun unnamed => (application_refuses unnamed).bind _
  | deleteDeployment id => exact guards_name
  | scaleDeployment id replicas => exact guards_replicas
  | rollbackDeployment id revision => exact guards_revision
  | deploymentLogs id options =>
    exact guards_logOptions fun unnamed => (application_refuses unnamed).bind _
  | uploadPackage upload => exact guards_checkpoint fun violated => violated.1.elim
  | _ => exact guards_checkpoint False.elim

end OnCluster

namespace OnServer

theorem application_refuses {home operation id : String} (unnamed : ¬ IsName id) :
    (application home operation id).Refuses :=
  refuses_checkName unnamed

theorem guards_action (home address : String) (now : Time.Instant) (action : Action) :
    (action.program (operations home now address)).Guards (action.Violates .argocdRest) := by
  cases action with
  | createDeployment request => exact guards_build
  | updateDeployment id update =>
    exact guards_checkUpdate fun unnamed => (application_refuses unnamed).bind _
  | getDeployment id | deploymentStatus id | deploymentHistory id =>
    exact guards_checkpoint fun unnamed => (application_refuses unnamed).bind _
  | deleteDeployment id => exact guards_name
  | scaleDeployment id replicas => exact guards_replicas
  | rollbackDeployment id revision => exact guards_revision
  | deploymentLogs id options => exact guards_nameAndLogOptions
  | uploadPackage upload => exact guards_checkpoint fun violated => violated.1.elim
  | _ => exact guards_checkpoint False.elim

end OnServer

end Application

namespace Composite

theorem strict_build (kind : Cluster.ResourceKind) (request : DeploymentRequest) :
    (build kind request).Strict := by
  simp [build]

theorem rules_of_build {kind : Cluster.ResourceKind} {request : DeploymentRequest} {composite : Json}
    (built : build kind request = .ok composite) : IsName request.name ∧ IsName request.namespace := by
  obtain ⟨_, name, built⟩ := Outcome.bind_eq_ok.mp built
  obtain ⟨_, «namespace», -⟩ := Outcome.bind_eq_ok.mp built
  exact ⟨checkName_ok_iff.mp name, checkName_ok_iff.mp «namespace»⟩

theorem strict_updatedComposition (update : DeploymentUpdate) :
    (updatedComposition update).Strict := by
  simp only [updatedComposition, Outcome.strict_bind_iff, optionalText_strict, true_and]
  intro composition _
  cases composition <;> simp

theorem strict_uploadReference (upload : PackageUpload) : (uploadReference upload).Strict := by
  unfold uploadReference
  dsimp only
  split
  · simp [Failure.kind]
  split
  · simp
  · split <;> simp [Failure.kind]
  · simp

theorem strict_buildConfiguration (upload : PackageUpload) : (buildConfiguration upload).Strict := by
  simp [buildConfiguration, strict_uploadReference]

theorem isName_of_buildConfiguration {upload : PackageUpload} {configuration : Json}
    (built : buildConfiguration upload = .ok configuration) : IsName upload.name := by
  obtain ⟨_, name, -⟩ := Outcome.bind_eq_ok.mp built
  exact checkName_ok_iff.mp name

namespace OnCluster

theorem composite_refuses {kind : Cluster.ResourceKind} {operation id : String}
    (unnamed : ¬ IsName id) : (composite kind operation id).Refuses :=
  refuses_checkName unnamed

theorem guards_action (kind : Cluster.ResourceKind) (now : Time.Instant) (action : Action) :
    (action.program (operations kind now)).Guards (action.Violates .crossplane) := by
  cases action with
  | createDeployment request =>
    refine guards_checkpoint fun violated => refuses_check (strict_build kind request) fun _ built => ?_
    obtain ⟨name, «namespace»⟩ := rules_of_build built
    rcases violated with unnamed | unnamed | ⟨⟨⟩, -⟩
    · exact absurd name unnamed
    · exact absurd «namespace» unnamed
  | updateDeployment id update =>
    refine guards_checkpoint fun violated =>
      refuses_check (strict_updatedComposition update) fun _ _ => ?_
    rcases violated with unnamed | ⟨⟨⟩, -⟩
    exact (composite_refuses unnamed).bind _
  | getDeployment id | deploymentStatus id | deploymentHistory id =>
    exact guards_checkpoint fun unnamed => (composite_refuses unnamed).bind _
  | deleteDeployment id => exact guards_name
  | scaleDeployment id replicas => exact guards_replicas
  | rollbackDeployment id revision => exact guards_revision
  | deploymentLogs id options => exact guards_nameAndLogOptions
  | uploadPackage upload =>
    refine guards_checkpoint fun violated =>
      refuses_check (strict_buildConfiguration upload) fun _ built => ?_
    exact absurd (isName_of_buildConfiguration built) violated.2
  | _ => exact guards_checkpoint False.elim

end OnCluster

end Composite

namespace Flux

theorem strict_parseId (id : String) : (parseId id).Strict := by
  simp only [parseId]
  split
  · split
    · simp
    · exact (Outcome.strict_error _).mpr rfl
  · simp

theorem isId_of_parseId {id : String} {named : Option FluxKind × String}
    (parsed : parseId id = .ok named) : IsId id := by
  simp only [parseId] at parsed
  split at parsed
  · rename_i word name cut
    split at parsed
    · rename_i kind known
      rw [pure_bind] at parsed
      obtain ⟨_, checked, -⟩ := Outcome.bind_eq_ok.mp parsed
      refine .inr ⟨word, name, Text.eq_append_of_cutFirst? cut, checkName_ok_iff.mp checked, ?_⟩
      have word_eq : kind.word = Text.lowercase word := by
        simpa using List.find?_some known
      cases kind with
      | kustomization => exact .inl word_eq.symm
      | helmRelease => exact .inr word_eq.symm
    · cases parsed
  · rw [pure_bind] at parsed
    obtain ⟨_, checked, -⟩ := Outcome.bind_eq_ok.mp parsed
    exact .inl (checkName_ok_iff.mp checked)

theorem strict_requestedKind (request : DeploymentRequest) : (requestedKind request).Strict := by
  simp only [requestedKind, Outcome.strict_bind_iff, optionalText_strict, true_and]
  intro word _
  rcases word with _ | word
  · simp
  · rcases found : FluxKind.ofWord? word with _ | kind <;> simp [found, Failure.kind]

theorem strict_newSource (home : String) (request : DeploymentRequest) :
    (newSource home request).Strict := by
  simp only [newSource, Outcome.strict_bind_iff, optionalText_strict, true_and]
  intro name _ url _
  split
  · simp
  · simp [buildRepository]
  · simp [Failure.kind]

private theorem strict_substitutions (values : Extensions) : (substitutions values).Strict := by
  refine Outcome.strict_mapM (fun (name, value) => ?_) values.toList
  cases value <;> simp [Failure.kind]

theorem strict_buildKustomization (home : String) (request : DeploymentRequest) (source : String) :
    (buildKustomization home request source).Strict := by
  simp only [buildKustomization, Outcome.strict_bind_iff, optionalText_strict, checkPath_strict,
    true_and]
  intro path _ _ _ interval _
  split
  · simp
  · simp [strict_substitutions]

theorem rules_of_buildKustomization {home source : String} {request : DeploymentRequest}
    {object : Json} (built : buildKustomization home request source = .ok object) :
    HasPathInside request.extensions := by
  obtain ⟨text, given, built⟩ := Outcome.bind_eq_ok.mp built
  obtain ⟨_, path, -⟩ := Outcome.bind_eq_ok.mp built
  exact hasPathInside_of_checkPath "./" given path

namespace OnCluster

theorem resolve_refuses {home operation id : String} (unnamed : ¬ IsId id) :
    (resolve home operation id).Refuses :=
  refuses_check (strict_parseId id) fun _ parsed => absurd (isId_of_parseId parsed) unnamed

theorem guards_action (home : String) (now : Time.Instant) (action : Action) :
    (action.program (operations home now)).Guards (action.Violates .flux) := by
  cases action with
  | createDeployment request =>
    refine guards_checkpoint fun violated => refuses_check (checkName_strict _ _) fun _ name =>
      refuses_check (checkName_strict _ _) fun _ «namespace» =>
        refuses_check (strict_requestedKind request) fun kind asked => ?_
    rcases violated with unnamed | unnamed | ⟨other, outside⟩
    · exact absurd (checkName_ok_iff.mp name) unnamed
    · exact absurd (checkName_ok_iff.mp «namespace») unnamed
    cases kind with
    | helmRelease => exact absurd asked other
    | kustomization =>
      refine refuses_check (strict_newSource home request) fun source _ =>
        refuses_check (strict_buildKustomization home request source.1) fun _ built => ?_
      exact absurd (rules_of_buildKustomization built) outside
  | updateDeployment id update =>
    refine guards_checkpoint fun violated => refuses_check (strict_parseId id) fun _ parsed =>
      refuses_check (optionalText_strict _ _) fun text given => ?_
    rcases violated with unnamed | ⟨-, outside⟩
    · exact absurd (isId_of_parseId parsed) unnamed
    cases text with
    | none => exact absurd (hasPathInside_of_optionalText given nofun) outside
    | some path =>
      refine refuses_check (checkPath_strict _ path) fun _ inside => ?_
      exact absurd (hasPathInside_of_checkPath "" given inside) outside
  | getDeployment id | deploymentStatus id | deploymentHistory id | deleteDeployment id =>
    exact guards_checkpoint fun unnamed => (resolve_refuses unnamed).bind _
  | scaleDeployment id replicas =>
    refine guards_checkpoint fun violated => refuses_check (strict_parseId id) fun _ parsed =>
      refuses_check (checkReplicas_strict _) fun _ counted => ?_
    rcases violated with unnamed | negative
    · exact absurd (isId_of_parseId parsed) unnamed
    · exact absurd negative (Int32.not_lt.mpr (checkReplicas_ok_iff.mp counted))
  | rollbackDeployment id revision =>
    refine guards_checkpoint fun violated => refuses_check (strict_parseId id) fun _ parsed =>
      refuses_check (checkRevision_strict _) fun _ counted => ?_
    rcases violated with unnamed | negative
    · exact absurd (isId_of_parseId parsed) unnamed
    · exact absurd negative (Int64.not_lt.mpr (checkRevision_ok_iff.mp counted))
  | deploymentLogs id options =>
    refine guards_checkpoint fun violated => refuses_check (strict_parseId id) fun _ parsed =>
      refuses_check (checkLogOptions_strict _) fun _ checked => ?_
    rcases violated with unnamed | wrong
    · exact absurd (isId_of_parseId parsed) unnamed
    · exact absurd (checkLogOptions_ok_iff.mp checked) wrong
  | uploadPackage upload => exact guards_checkpoint fun violated => violated.1.elim
  | _ => exact guards_checkpoint False.elim

end OnCluster

end Flux

namespace Release.OnManager

theorem locate_refuses {operation id : String} (unnamed : ¬ IsName id) :
    (locate operation id).Refuses :=
  refuses_checkName unnamed

theorem current_refuses {operation id : String} (unnamed : ¬ IsName id) :
    (current operation id).Refuses :=
  (locate_refuses unnamed).bind _

theorem guards_action (now : Time.Instant) (action : Action) :
    (action.program (operations now)).Guards (action.Violates .helm) := by
  cases action with
  | createDeployment request =>
    refine guards_checkpoint fun violated => refuses_check (checkName_strict _ _) fun _ name =>
      refuses_check (checkName_strict _ _) fun _ «namespace» => ?_
    rcases violated with unnamed | unnamed | ⟨⟨⟩, -⟩
    · exact absurd (checkName_ok_iff.mp name) unnamed
    · exact absurd (checkName_ok_iff.mp «namespace») unnamed
  | updateDeployment id update =>
    refine guards_checkpoint fun violated => refuses_check (optionalText_strict _ _) fun _ _ =>
      refuses_check (optionalText_strict _ _) fun _ _ =>
        refuses_check (optionalText_strict _ _) fun _ _ => ?_
    rcases violated with unnamed | ⟨⟨⟩, -⟩
    exact (current_refuses unnamed).bind _
  | getDeployment id | deploymentStatus id =>
    exact guards_checkpoint fun unnamed => (current_refuses unnamed).bind _
  | deploymentHistory id | deleteDeployment id =>
    exact guards_checkpoint fun unnamed => (locate_refuses unnamed).bind _
  | scaleDeployment id replicas => exact guards_replicas
  | rollbackDeployment id revision => exact guards_revision
  | deploymentLogs id options =>
    exact guards_logOptions fun unnamed => (locate_refuses unnamed).bind _
  | uploadPackage upload => exact guards_checkpoint fun violated => refuses_checkName violated.2
  | _ => exact guards_checkpoint False.elim

end Release.OnManager

theorem guards_action (settings : Settings) (now : Time.Instant) (action : Action) :
    (action.program (settings.operations now)).Guards (action.Violates settings.kind) := by
  cases settings with
  | argocd home => exact Application.OnCluster.guards_action home now action
  | argocdRest baseUrl tokenVariable home timeoutSeconds =>
    exact Application.OnServer.guards_action home (Settings.addressOf baseUrl) now action
  | crossplane composite => exact Composite.OnCluster.guards_action composite now action
  | flux home => exact Flux.OnCluster.guards_action home now action
  | helm binary context => exact Release.OnManager.guards_action now action

/-- Every operation asks first whether its caller still waits. If not it ends as cancelled, and if so it
ends as invalid when what was asked for breaks a rule; in both cases it asks for no client and makes no
call, whatever the back ends would answer. -/
theorem no_call_of_cancelled_or_violates (settings : Settings) (now : Time.Instant)
    (action : Action) :
    (∀ exchanges outcome, (action.program (settings.operations now)).Trace exchanges outcome →
      ∃ reply rest, exchanges = ⟨.checkpoint, reply⟩ :: rest) ∧
    (∀ exchanges outcome,
      (action.program (settings.operations now)).Trace
          (⟨.checkpoint, .error .cancelled⟩ :: exchanges) outcome ↔
        exchanges = [] ∧ outcome = .error .cancelled) ∧
    (action.Violates settings.kind → ∃ failure, failure.kind = .validation ∧
      ∀ exchanges outcome,
        (action.program (settings.operations now)).Trace
            (⟨.checkpoint, .ok ()⟩ :: exchanges) outcome ↔
          exchanges = [] ∧ outcome = .error failure) := by
  have guards := guards_action settings now action
  exact ⟨fun _ _ trace => guards.starts trace, fun _ _ => guards.cancelled, guards.refused⟩

/-- An update of a helm release, named by its kind in capitals, that would take a path out of the
repository is turned away; so is a request to scale to less than nothing. -/
theorem no_call_of_path_outside :
    (∃ failure, failure.kind = .validation ∧ ∀ exchanges outcome,
      (Flux.OnCluster.updateDeployment "flux-system" ⟨0, 0⟩ "HelmRelease:web"
          ⟨none, .empty, .empty, SortedMap.empty.insert "path" (.string "a/../../b")⟩).Trace
            (⟨.checkpoint, .ok ()⟩ :: exchanges) outcome ↔
        exchanges = [] ∧ outcome = .error failure) ∧
    ∃ failure, failure.kind = .validation ∧ ∀ exchanges outcome,
      (Release.OnManager.scaleDeployment ⟨0, 0⟩ "web" (-1)).Trace
          (⟨.checkpoint, .ok ()⟩ :: exchanges) outcome ↔
        exchanges = [] ∧ outcome = .error failure := by
  constructor
  · have violates : (Action.updateDeployment "HelmRelease:web" ⟨none, .empty, .empty,
        SortedMap.empty.insert "path" (.string "a/../../b")⟩).Violates .flux := by
      refine .inr ⟨trivial, fun inside => ?_⟩
      rcases inside (.string "a/../../b") rfl with same | ⟨path, same, inside⟩
      · cases same
      · cases same
        exact inside.level ⟨['a', '/'], ['/', '.', '.', '/', 'b'], by decide, by simp [isPathMark],
          by simp [isPathMark]⟩
    exact (no_call_of_cancelled_or_violates (.flux "flux-system") ⟨0, 0⟩
      (.updateDeployment "HelmRelease:web" _)).2.2 violates
  · have violates : (Action.scaleDeployment "web" (-1)).Violates .helm := .inr (by decide)
    exact (no_call_of_cancelled_or_violates (.helm "helm" none) ⟨0, 0⟩
      (.scaleDeployment "web" (-1))).2.2 violates

end DeploymentGateway
