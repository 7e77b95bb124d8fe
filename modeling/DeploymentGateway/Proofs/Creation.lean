import DeploymentGateway.Proofs.Creation.Cluster
import DeploymentGateway.Proofs.Listing.Reading
import DeploymentGateway.Proofs.Time.Stamp
/-!
What is created is what is read. A new deployment has the name, the namespace and the labels of its request, its
object has the values, and its id finds it. Other ids find what they found before. What counts as another id
takes some care where ids carry a kind, as that may be spelled in any case.
-/

set_option autoImplicit false

namespace DeploymentGateway

open Cluster Rules

/-- What a deployment is in a back end: an object of a kind in a namespace, which has its values in some place
and in some form, and an id. -/
structure Rendering where
  kind : ResourceKind
  home : String
  id : String
  layout : Layout
  values : List (String × Json)

/-- What a back end in the cluster makes of a request. -/
inductive Settings.Renders (request : DeploymentRequest) : Settings → Rendering → Prop
  | argocd (home : String) : Renders request (.argocd home)
      { kind := Application.kind
        home
        id := request.name
        layout := Application.layout
        values := request.values.toList }
  | crossplane (kind : ResourceKind) : Renders request (.crossplane kind)
      { kind
        home := ""
        id := request.name
        layout := Composite.layout
        values := Composite.parameters request }
  | flux (home : String) {kind : Flux.FluxKind} (asked : Flux.requestedKind request = .ok kind) :
    Renders request (.flux home)
      { kind := kind.resource
        home
        id := Flux.deploymentId kind request.name
        layout := kind.layout
        values := kind.keptValues request.values }

/-- An id means the deployment that a request asks for: it is its name, or it is read as its kind and name. -/
def Settings.Means (settings : Settings) (request : DeploymentRequest) (id : String) : Prop :=
  match settings with
  | .flux _ => ∃ kind, Flux.requestedKind request = .ok kind ∧
    Flux.parseId id = .ok (some kind, request.name)
  | _ => id = request.name

/-- What a back end tells of an id, once it has been looked up in a memory. -/
abbrev Settings.answer (settings : Settings) (now : Time.Instant) (memory : Memory) (id : String) :
    Outcome Deployment :=
  (((settings.operations now).getDeployment id).runInMemory now memory).1

/-- A new deployment reads back as it was asked for, and all else reads as before. -/
structure Settings.ReadsBack (settings : Settings) (now : Time.Instant) (request : DeploymentRequest)
    (rendering : Rendering) (memory after : Memory) (d : Deployment) : Prop where
  id : d.id = rendering.id
  name : d.name = request.name
  «namespace» : d.namespace = request.namespace
  labels : d.labels = request.labels
  values : ∃ object, after.cluster.object? rendering.kind rendering.home request.name = some object ∧
    object.objectAt ("spec" :: rendering.layout.values) = rendering.values
  means : settings.Means request d.id
  /-- The deployment is found at once, and later too if the clock shows a year of four digits. -/
  found : ∀ id, settings.Means request id → ∀ later, later = now ∨ now.Ordinary →
    ((settings.operations later).getDeployment id).runInMemory later after = (.ok d, after)
  /-- A bare name may also mean a deployment of another kind, so it does not count here. -/
  others : ∀ id, id ≠ request.name → ¬ settings.Means request id → ∀ later,
    settings.answer later after id = settings.answer later memory id

section

variable {now : Time.Instant} {request : DeploymentRequest} {memory after : Memory} {d : Deployment}

/-- The time of its making is kept with an object, so that it is shown with it later. -/
private theorem dated_of_made {kind : ResourceKind} {home name : String} {asked new : Json}
    {objects after : Objects} (made : Made now kind home name asked objects after new)
    {later : Time.Instant} (known : later = now ∨ now.Ordinary) :
    now = later ∨ (createdAt new).isSome := by
  rcases known with rfl | ordinary
  · exact .inl rfl
  · right
    rw [made.createdAt_eq, Time.readStrict?_textWithOffset ordinary]
    rfl

/-- An object that was made as its request asks for reads back so, if ids find it and no others. -/
private theorem Settings.ReadsBack.of_made {settings : Settings} {rendering : Rendering}
    (collection : Collection) {asked new : Json} {objects : Objects}
    (made : Made now rendering.kind rendering.home request.name asked objects after.cluster.objects new)
    (asks : Conveys request rendering.layout rendering.values asked)
    (idOf : collection.idOf request.name = rendering.id)
    (space : Conveys request rendering.layout rendering.values new →
      (collection.read now new).namespace = request.namespace)
    (means : settings.Means request rendering.id)
    (found : ∀ id, settings.Means request id → ∀ later,
      ((settings.operations later).getDeployment id).runInMemory later after =
        (.ok (collection.read later new), after))
    (others : ∀ id, id ≠ request.name → ¬ settings.Means request id → ∀ later,
      settings.answer later after id = settings.answer later memory id) :
    settings.ReadsBack now request rendering memory after (collection.read now new) := by
  have conveys := made.conveys asks
  have id : (collection.read now new).id = rendering.id := by
    rw [collection.id_read, conveys.named, idOf]
  constructor
  case id => exact id
  case name => rw [collection.name_read, conveys.named]
  case «namespace» => exact space conveys
  case labels => rw [collection.labels_read, conveys.labelsOf_eq]
  case values => exact ⟨new, made.stored, conveys.values⟩
  case means => exact id ▸ means
  case found =>
    intro id meant later known
    have shown : collection.read later new = collection.read now new :=
      collection.read_eq new (dated_of_made made known)
    rw [found id meant later, shown]
  case others => exact others

/-- What is told of an object depends on that object alone. -/
private theorem outcome_congr {kind : ResourceKind} {home id : String} {failure : ClusterError → Failure}
    {lookup : Program Json}
    (looks : lookup = do
      Program.ofOutcome (checkName "id" id)
      Program.connect .cluster
      Program.expect (← Program.get kind home id) failure)
    (same : after.cluster.objects.get? (Store.key kind home id) =
      memory.cluster.objects.get? (Store.key kind home id))
    (later : Time.Instant) (read : Json → Deployment) :
    ((Program.checkpoint >>= fun _ => lookup >>= fun object => pure (read object)).runInMemory later
        after).1 =
      ((Program.checkpoint >>= fun _ => lookup >>= fun object => pure (read object)).runInMemory later
        memory).1 := by
  subst looks
  rcases checkName "id" id with failed | ⟨⟩
  · simp
  · rcases found : memory.cluster.objects.get? (Store.key kind home id) with _ | object
    all_goals simp [Store.get, Store.object?, same, found]

private theorem Application.readsBack_of_created {home : String}
    (run : (OnCluster.createDeployment home now request).Runs now memory (.ok d) after) :
    ∃ rendering, (Settings.argocd home).Renders request rendering ∧
      (Settings.argocd home).ReadsBack now request rendering memory after d := by
  obtain ⟨app, new, built, made, rfl⟩ :=
    OnCluster.ensures_createDeployment memory _ after rfl run d rfl
  have checked : checkName "id" request.name = .ok () := checkName_field (checkName_of_build built)
  refine ⟨_, .argocd home, .of_made (.applications home) made (conveys_of_build built) rfl
    (fun conveys => conveys.namespace) rfl ?_ ?_⟩
  · rintro id rfl later
    exact OnCluster.getDeployment_eq_iff.mpr ⟨checked, new, made.stored, rfl⟩
  · intro id other _ later
    have away : Store.key Application.kind home id ≠ Store.key Application.kind home request.name := fun same =>
      other (congrArg ObjectKey.name same)
    have same : after.cluster.objects.get? _ = memory.cluster.objects.get? _ := made.elsewhere away
    exact outcome_congr rfl same later (toDeployment later)

private theorem Composite.readsBack_of_created {kind : ResourceKind}
    (run : (OnCluster.createDeployment kind now request).Runs now memory (.ok d) after) :
    ∃ rendering, (Settings.crossplane kind).Renders request rendering ∧
      (Settings.crossplane kind).ReadsBack now request rendering memory after d := by
  obtain ⟨composite, new, built, made, rfl⟩ :=
    OnCluster.ensures_createDeployment memory _ after rfl run d rfl
  have checked : checkName "id" request.name = .ok () := checkName_field (checkName_of_build built)
  refine ⟨_, .crossplane kind, .of_made (.composites kind) made (conveys_of_build built) rfl
    (fun conveys => conveys.namespace) rfl ?_ ?_⟩
  · rintro id rfl later
    exact OnCluster.getDeployment_eq_iff.mpr ⟨checked, new, made.stored, rfl⟩
  · intro id other _ later
    have away : Store.key kind "" id ≠ Store.key kind "" request.name := fun same =>
      other (congrArg ObjectKey.name same)
    have same : after.cluster.objects.get? _ = memory.cluster.objects.get? _ := made.elsewhere away
    exact outcome_congr rfl same later (toDeployment later)

namespace Flux

open OnCluster

variable {home id : String}

private theorem firstOf_congr (operation id : String) (later : Time.Instant) {name : String}
    {kinds : List FluxKind}
    (same : ∀ kind ∈ kinds, after.cluster.objects.get? (Store.key kind.resource home name) =
      memory.cluster.objects.get? (Store.key kind.resource home name)) :
    ∃ outcome, (firstOf home operation id name kinds).runInMemory later after = (outcome, after) ∧
      (firstOf home operation id name kinds).runInMemory later memory = (outcome, memory) := by
  induction kinds with
  | nil => exact ⟨_, rfl, rfl⟩
  | cons kind rest ih =>
    obtain ⟨here, others⟩ := List.forall_mem_cons.mp same
    rcases found : memory.cluster.objects.get? (Store.key kind.resource home name) with _ | object
    · simpa [firstOf, Store.get, Store.object?, here, found] using ih others
    · simp [firstOf, Store.get, Store.object?, here, found]

/-- What an id finds depends on the objects that it may mean alone. -/
private theorem answer_congr {later : Time.Instant}
    (same : ∀ wanted name, parseId id = .ok (wanted, name) → ∀ kind ∈ fluxKinds wanted,
      after.cluster.objects.get? (Store.key kind.resource home name) =
        memory.cluster.objects.get? (Store.key kind.resource home name)) :
    (Settings.flux home).answer later after id = (Settings.flux home).answer later memory id := by
  change ((getDeployment home later id).runInMemory later after).1 =
    ((getDeployment home later id).runInMemory later memory).1
  rcases parsed : parseId id with failure | ⟨wanted, name⟩
  · simp [getDeployment, resolve, parsed]
  · obtain ⟨outcome, first, second⟩ := firstOf_congr "get" id later (same wanted name parsed)
    have resolved (memory : Memory)
        (run : (firstOf home "get" id name (fluxKinds wanted)).runInMemory later memory =
          (outcome, memory)) :
        (resolve home "get" id).runInMemory later memory = (outcome, memory) := by
      cases wanted <;> simpa [resolve, parsed, fluxKinds] using run
    change ((resolve home "get" id >>= fun found =>
        pure (toDeployment later found.1 found.2)).runInMemory later after).1 =
      ((resolve home "get" id >>= fun found =>
        pure (toDeployment later found.1 found.2)).runInMemory later memory).1
    rw [Program.runInMemory_bind, Program.runInMemory_bind, resolved after first,
      resolved memory second]
    cases outcome <;> rfl

/-- An id without a kind is a bare name. -/
private theorem eq_of_parseId_none {name : String} (read : parseId id = .ok (none, name)) :
    name = id := by
  unfold parseId at read
  split at read
  · split at read
    · obtain ⟨_, ⟨⟩, read⟩ := Outcome.bind_eq_ok.mp read
      obtain ⟨-, -, read⟩ := Outcome.bind_eq_ok.mp read
      cases read
    · cases read
  · obtain ⟨_, ⟨⟩, read⟩ := Outcome.bind_eq_ok.mp read
    obtain ⟨-, -, read⟩ := Outcome.bind_eq_ok.mp read
    cases read
    rfl

private theorem key_ne_of_apart {kind other : FluxKind} {wanted : Option FluxKind} {name : String}
    (asked : requestedKind request = .ok kind) (bare : id ≠ request.name)
    (apart : ¬ (Settings.flux home).Means request id) (read : parseId id = .ok (wanted, name))
    (mem : other ∈ fluxKinds wanted) :
    Store.key other.resource home name ≠ Store.key kind.resource home request.name := by
  intro same
  obtain rfl : name = request.name := congrArg ObjectKey.name same
  have plural : other.resource.plural = kind.resource.plural := congrArg ObjectKey.plural same
  obtain rfl : other = kind := by
    cases other <;> cases kind <;> first | rfl | exact absurd plural (by decide)
  cases wanted with
  | none => exact bare (eq_of_parseId_none read).symm
  | some wanted =>
    obtain rfl := List.mem_singleton.mp mem
    exact apart ⟨other, asked, read⟩

private theorem readsBack_of_created
    (run : (createDeployment home now request).Runs now memory (.ok d) after) :
    ∃ rendering, (Settings.flux home).Renders request rendering ∧
      (Settings.flux home).ReadsBack now request rendering memory after d := by
  obtain ⟨kind, new, checked, space, asked, created, rfl⟩ :=
    ensures_createDeployment memory _ after rfl run d rfl
  have parsed := parseId_deploymentId (checkName_field checked) kind
  obtain ⟨between, object, made, asks, sources⟩ := created.made
  refine ⟨_, .flux home asked, .of_made (.reconciled home kind) made asks rfl ?_
    ⟨kind, asked, parsed⟩ ?_ ?_⟩
  · intro conveys
    have target : new.stringAt ["spec", "targetNamespace"] = request.namespace := by
      cases kind <;> exact conveys.namespace
    change targetNamespace new = _
    rw [targetNamespace, target]
    exact if_neg (by simp [ne_empty_of_checkName space])
  · rintro id ⟨kind', asked', meant⟩ later
    obtain rfl : kind = kind' := Except.ok.inj (asked.symm.trans asked')
    have stored : after.cluster.objects.get? (Store.key kind.resource home request.name) = some new :=
      made.stored
    exact getDeployment_of_addressed
      ⟨some kind, request.name, meant, by simp [fluxKinds, stored], stored⟩
  · intro id bare apart later
    refine answer_congr fun wanted name read other mem => ?_
    have away : Store.key other.resource home name ≠ Store.key gitRepositoryKind home request.name :=
      Store.key_ne_of_plural (by cases other <;> decide) _ _ _ _
    exact (made.elsewhere (key_ne_of_apart asked bare apart read mem)).trans (sources _ away)

end Flux

/-- A deployment that is created in the cluster, in whatever state that is, reads back as it was asked for, and
the ids that do not mean it read as before. -/
theorem readsBack_of_runs {settings : Settings} (inCluster : settings.kind ∈ [.argocd, .crossplane, .flux])
    (run : ((settings.operations now).createDeployment request).Runs now memory (.ok d) after) :
    ∃ rendering, settings.Renders request rendering ∧
      settings.ReadsBack now request rendering memory after d := by
  cases settings with
  | argocd home => exact Application.readsBack_of_created run
  | crossplane kind => exact Composite.readsBack_of_created run
  | flux home => exact Flux.readsBack_of_created run
  | argocdRest address token home seconds => simp [Settings.kind] at inCluster
  | helm binary context => simp [Settings.kind] at inCluster

end

/-- A kustomization with a number among its values. -/
def numbered : DeploymentRequest where
  name := "web"
  «namespace» := "shop"
  packageId := none
  values := .ofList [("replicas", .ofInt 3)]
  labels := .ofList [("tier", "front")]
  extensions := .ofList [("sourceName", .string "apps")]

/-- The number is kept as a text, and every spelling of the kind finds the deployment. -/
theorem readsBack_of_runs_numbered :
    ∃ d after object, (Flux.OnCluster.createDeployment "flux-system" ⟨0, 0⟩ numbered).Runs ⟨0, 0⟩
        .empty (.ok d) after ∧
      d.id = "kustomization:web" ∧ d.namespace = "shop" ∧ d.labels = numbered.labels ∧
      after.cluster.object? Flux.kustomizationKind "flux-system" "web" = some object ∧
      object.objectAt ["spec", "postBuild", "substitute"] = [("replicas", .string "3")] ∧
      (Flux.OnCluster.getDeployment "flux-system" ⟨5, 0⟩ "Kustomization:web").runInMemory ⟨5, 0⟩ after =
        (.ok d, after) := by
  have created : (Flux.OnCluster.createDeployment "flux-system" ⟨0, 0⟩ numbered).runInMemory ⟨0, 0⟩
      .empty = (.ok _, _) := rfl
  have run := Program.runs_of_runInMemory created
  have settings : (Settings.flux "flux-system").kind ∈ [.argocd, .crossplane, .flux] := by decide
  obtain ⟨rendering, renders, reads⟩ := readsBack_of_runs settings run
  cases renders with
  | flux _ asked =>
    obtain rfl : _ = Flux.FluxKind.kustomization := (Except.ok.inj asked).symm
    obtain ⟨object, stored, values⟩ := reads.values
    have ordinary : Time.Instant.Ordinary ⟨0, 0⟩ := ⟨by decide, .inl (by decide)⟩
    exact ⟨_, _, object, run, reads.id, reads.namespace, reads.labels, stored, values,
      reads.found "Kustomization:web" ⟨.kustomization, rfl, rfl⟩ ⟨5, 0⟩ (.inr ordinary)⟩

/-- An id that is not that of the new deployment, but means it too, finds it now and did not before. -/
theorem Flux.answer_of_other_spelling :
    ∃ d after id, (OnCluster.createDeployment "flux-system" ⟨0, 0⟩ ownSource).Runs ⟨0, 0⟩ .empty
        (.ok d) after ∧
      id ≠ d.id ∧ Text.cutFirst? ':' id = some ("Kustomization", "web") ∧
      (Settings.flux "flux-system").answer ⟨0, 0⟩ .empty id = .error (.deploymentNotFound id) ∧
      (Settings.flux "flux-system").answer ⟨0, 0⟩ after id = .ok d := by
  have created : (OnCluster.createDeployment "flux-system" ⟨0, 0⟩ ownSource).runInMemory ⟨0, 0⟩ .empty =
      (.ok _, _) := rfl
  have run := Program.runs_of_runInMemory created
  refine ⟨_, _, "Kustomization:web", run, ?_, by decide, rfl, ?_⟩
  · decide
  · rfl

end DeploymentGateway
