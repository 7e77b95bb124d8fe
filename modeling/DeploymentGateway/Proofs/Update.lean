import DeploymentGateway.Adapter
import DeploymentGateway.Proofs.Identity.Cluster
import DeploymentGateway.Proofs.Listing.Reading
import DeploymentGateway.Proofs.Update.Intake
/-!
Updates of stored objects. An update that succeeds merges what it asks for into the object of the deployment, and
drops nothing that was there. The same update once more finds everything as it wants it, so it leaves the object as
it is, but for what counts the writes and tells the time of the last one.
-/

set_option autoImplicit false

namespace DeploymentGateway

open Cluster

section

variable {memory : Memory} {rewrite : Rewrite} {object changed : Json} {name : String}

/-- A rewrite of a stored object puts the changed one in its place, unless the cluster refuses that. -/
theorem Rewrite.runInMemory_program (now : Time.Instant) (made : rewrite.change object = .ok changed)
    (named : nameOf changed = name) (version : changed.stringAt versionPath = object.stringAt versionPath)
    (stored : memory.cluster.object? rewrite.kind rewrite.namespace name = some object) :
    (rewrite.program object).runInMemory now memory =
      if rewrite.kind.plural ∈ memory.cluster.rejectedUpdates then
        (.error (rewrite.failure changed
          (.conflict (rewrite.kind.kind ++ " " ++ name ++ " was modified"))), memory)
      else
        (.ok (rewrite.result (memory.cluster.written (Store.succeeding object changed))),
          { memory with cluster := (memory.cluster.write (Store.key rewrite.kind rewrite.namespace name)
              (Store.succeeding object changed)).2 }) := by
  split
  · rename_i rejected
    have refused := memory.cluster.update_of_rejected rewrite.kind rewrite.namespace named rejected
    simp [Rewrite.program, Rewrite.write, made, refused]
  · rename_i accepted
    have updated := memory.cluster.update_of_current rewrite.kind rewrite.namespace named accepted stored
      (.inr version)
    simp [Rewrite.program, Rewrite.write, made, updated]

end

/-- An update of an id passes all checks, and some object takes it in. -/
inductive Settings.Takes (id : String) (update : DeploymentUpdate) (objects : Objects) :
    Settings → Intake → String → Json → Prop where
  | application {home : String} {app : Json} (checked : Application.checkUpdate update = .ok ())
    (named : Rules.checkName "id" id = .ok ())
    (stored : objects.get? (Store.key Application.kind home id) = some app) :
    Takes id update objects (.argocd home) (Application.intake home) id app
  | composite {kind : ResourceKind} {composition : Option String} {composite : Json}
    (checked : Composite.updatedComposition update = .ok composition)
    (named : Rules.checkName "id" id = .ok ())
    (stored : objects.get? (Store.key kind "" id) = some composite) :
    Takes id update objects (.crossplane kind) (Composite.intake kind) id composite
  | reconciled {home name : String} {path version : Option String} {wanted : Option Flux.FluxKind}
    {kind : Flux.FluxKind} {object : Json}
    (checked : Operation.fluxUpdateCheck id update = .ok (path, version))
    (parsed : Flux.parseId id = .ok (wanted, name))
    (first : (fluxKinds wanted).find? (fun kind =>
      (objects.get? (Store.key kind.resource home name)).isSome) = some kind)
    (stored : objects.get? (Store.key kind.resource home name) = some object)
    (scalar : kind = .kustomization → ∃ substitute, Flux.substitutions update.values = .ok substitute) :
    Takes id update objects (.flux home) (kind.intake home) name object

section

variable {settings : Settings} {id name : String} {update : DeploymentUpdate} {objects : Objects}
  {intake : Intake} {object : Json} {now : Time.Instant} {memory after : Memory} {d : Deployment}

theorem Settings.Takes.stored (takes : settings.Takes id update objects intake name object) :
    objects.get? (Store.key intake.kind intake.home name) = some object := by
  cases takes with
  | application _ _ stored | composite _ _ stored => exact stored
  | @reconciled _ _ _ _ _ kind _ _ _ _ stored => cases kind <;> exact stored

private theorem exists_applyUpdate {kind : Flux.FluxKind} (object : Json) (path version : Option String)
    (scalar : kind = .kustomization → ∃ substitute, Flux.substitutions update.values = .ok substitute) :
    ∃ changed, Flux.applyUpdate kind object update path version = .ok changed := by
  cases kind with
  | helmRelease => exact ⟨_, rfl⟩
  | kustomization =>
    obtain ⟨substitute, taken⟩ := scalar rfl
    unfold Flux.applyUpdate
    rw [taken]
    exact ⟨_, rfl⟩

/-- The update is the rewrite of that object. -/
private theorem Settings.Takes.run_eq (now : Time.Instant)
    (takes : settings.Takes id update memory.cluster.objects intake name object) :
    ∃ rewrite : Rewrite, rewrite.kind = intake.kind ∧ rewrite.namespace = intake.home ∧
      rewrite.result = intake.read now ∧
      rewrite.change object = .ok (object.writes (intake.edits update ++ intake.stamps now)) ∧
      ((settings.operations now).updateDeployment id update).runInMemory now memory =
        (rewrite.program object).runInMemory now memory := by
  cases takes with
  | @application home _ checked named stored =>
    refine ⟨applicationRewrite home now "update" fun app => .ok (Application.applyUpdate app update),
      rfl, rfl, rfl, ?_, ?_⟩
    · change Except.ok (Application.applyUpdate object update) = _
      rw [Application.applyUpdate_eq_writes home]
      exact congrArg (fun edits => Except.ok (object.writes edits)) (List.append_nil _).symm
    · change (Application.OnCluster.updateDeployment home now id update).runInMemory now memory = _
      simp [Application.OnCluster.updateDeployment, Application.OnCluster.application, checked, named,
        Store.get, Store.object?, stored, Application.OnCluster.write, applicationRewrite, Rewrite.program,
        Rewrite.write]
  | @composite kind composition _ checked named stored =>
    refine ⟨compositeRewrite now kind id update composition, rfl, rfl, rfl, ?_, ?_⟩
    · change Except.ok (Composite.applyUpdate object update composition) = _
      rw [Composite.applyUpdate_eq_writes kind object checked]
      exact congrArg (fun edits => Except.ok (object.writes edits)) (List.append_nil _).symm
    · change (Composite.OnCluster.updateDeployment kind now id update).runInMemory now memory = _
      simp [Composite.OnCluster.updateDeployment, Composite.OnCluster.composite, checked, named, Store.get,
        Store.object?, stored, compositeRewrite, Rewrite.program, Rewrite.write]
  | @reconciled home _ path version wanted kind _ checked parsed first stored scalar =>
    refine ⟨fluxRewrite home now "update" kind fun object => Flux.applyUpdate kind object update path version,
      ?_, ?_, ?_, ?_, ?_⟩
    · cases kind <;> rfl
    · cases kind <;> rfl
    · cases kind <;> rfl
    · obtain ⟨paths, -, versions⟩ := Operation.fluxUpdateCheck_eq_ok checked
      have paths := Rules.textOf?_of_optionalText paths
      have versions := Rules.textOf?_of_optionalText versions
      obtain ⟨changed, made⟩ := exists_applyUpdate object path version scalar
      obtain rfl := Flux.applyUpdate_eq_writes home paths versions made
      change (Flux.applyUpdate kind object update path version >>= fun changed =>
        .ok (Flux.requestReconcile now changed)) = _
      rw [made, Json.writes_append]
      cases kind <;> rfl
    · change ((Operation.fluxUpdate home id update).program now).runInMemory now memory = _
      rw [Operation.program_eq_search, Operation.search, fluxSearch_program, checked]
      change (Flux.OnCluster.resolve home "update" id >>= _).runInMemory now memory = _
      rw [Program.runInMemory_bind,
        Flux.resolve_of_addressed "update" ⟨wanted, name, parsed, first, stored⟩]

/-- The object with an update taken in, as the cluster stores it. -/
def Intake.placed (intake : Intake) (update : DeploymentUpdate) (now : Time.Instant) (store : Store)
    (object : Json) : Json :=
  store.written (Store.succeeding object (object.writes (intake.edits update ++ intake.stamps now)))

theorem Intake.placed_eq_writes (intake : Intake) (update : DeploymentUpdate) (now : Time.Instant)
    (store : Store) (object : Json) : ∃ generation version, intake.placed update now store object =
      object.writes (intake.edits update ++ (intake.stamps now ++ counts generation version)) := by
  refine ⟨.ofInt (Store.nextGeneration ((object.intAt generationPath).getD 1)),
    .string (Text.decimal (store.versions + 1)), ?_⟩
  rw [← List.append_assoc, Json.writes_append]
  rfl

/-- Unless the cluster refuses it, such an update succeeds, and one object is replaced. -/
private theorem Settings.Takes.runInMemory (now : Time.Instant)
    (takes : settings.Takes id update memory.cluster.objects intake name object)
    (named : Named memory.cluster.objects) :
    (∃ failure, ((settings.operations now).updateDeployment id update).runInMemory now memory =
        (.error failure, memory)) ∧ intake.kind.plural ∈ memory.cluster.rejectedUpdates ∨
      intake.kind.plural ∉ memory.cluster.rejectedUpdates ∧
        ((settings.operations now).updateDeployment id update).runInMemory now memory =
          (.ok (intake.read now (intake.placed update now memory.cluster object)),
            { memory with cluster := (memory.cluster.write (Store.key intake.kind intake.home name)
              (Store.succeeding object
                (object.writes (intake.edits update ++ intake.stamps now)))).2 }) := by
  obtain ⟨rewrite, kind, home, read, made, run⟩ := takes.run_eq now
  have stored : memory.cluster.object? rewrite.kind rewrite.namespace name = some object := by
    rw [kind, home]
    exact takes.stored
  have away (edit : Json.Write) (mem : edit ∈ intake.edits update ++ intake.stamps now) :=
    intake.diverges_of_mem_edits update now mem
  have own : nameOf (object.writes (intake.edits update ++ intake.stamps now)) = name :=
    (Json.stringAt_writes_of_names (fun edit mem => (away edit mem).1) (by decide) object).trans
      (named _ _ takes.stored)
  have version := Json.stringAt_writes_of_names (fun edit mem => (away edit mem).2) (by decide) object
  have written := Rewrite.runInMemory_program now made own version stored
  rw [run, written]
  rw [kind, home, read]
  by_cases rejected : intake.kind.plural ∈ memory.cluster.rejectedUpdates
  · exact .inl ⟨⟨_, if_pos rejected⟩, rejected⟩
  · exact .inr ⟨rejected, if_neg rejected⟩

/-- An update that succeeds has passed all checks and found its object. -/
private theorem ensures_takes (inCluster : settings.kind ∈ [.argocd, .crossplane, .flux]) :
    ((settings.operations now).updateDeployment id update).Ensures .objects now objects fun outcome _ =>
      ∀ d, outcome = .ok d →
        ∃ intake name object, settings.Takes id update objects intake name object := by
  have failed (failure : Failure) (d : Deployment) (succeeds : (.error failure : Outcome Deployment) = .ok d) :
      ∃ intake name object, settings.Takes id update objects intake name object := by
    cases succeeds
  cases settings with
  | argocd home =>
    change ((Operation.applicationUpdate home id update).program now).Ensures _ _ _ _
    rw [Operation.program_eq_search]
    refine Search.ensures_program failed fun places asked place mem app stored => ?_
    obtain ⟨⟨⟩, checked, asked⟩ := Outcome.bind_eq_ok.mp asked
    obtain ⟨⟨⟩, named, asked⟩ := Outcome.bind_eq_ok.mp asked
    cases asked
    obtain rfl := List.mem_singleton.mp mem
    exact fun _ _ _ _ _ _ _ => ⟨_, _, _, .application checked named stored⟩
  | crossplane kind =>
    change (Composite.OnCluster.updateDeployment kind now id update).Ensures _ _ _ _
    rw [← compositeSearch_program]
    refine Search.ensures_program failed fun places asked place mem composite stored => ?_
    obtain ⟨composition, checked, asked⟩ := Outcome.bind_eq_ok.mp asked
    obtain ⟨⟨⟩, named, asked⟩ := Outcome.bind_eq_ok.mp asked
    cases asked
    obtain rfl := List.mem_singleton.mp mem
    exact fun _ _ _ _ _ _ _ => ⟨_, _, _, .composite checked named stored⟩
  | flux home =>
    change ((Operation.fluxUpdate home id update).program now).Ensures _ _ _ _
    rw [Operation.program_eq_search, Operation.search, fluxSearch_program]
    refine .checkpoint (failed _) (.check (fun failure _ => failed failure) fun asked checked => ?_)
    obtain ⟨path, version⟩ := asked
    refine Flux.ensures_resolve.bind ?_ fun failure _ _ => failed failure
    rintro ⟨kind, object⟩ _ ⟨rfl, found⟩
    obtain ⟨wanted, name, parsed, first, stored⟩ := found kind object rfl
    refine Rewrite.ensures_program failed fun _ changed _ _ made _ _ _ _ => ?_
    refine ⟨_, _, _, .reconciled checked parsed first stored ?_⟩
    rintro rfl
    obtain ⟨between, made, -⟩ := Outcome.bind_eq_ok.mp made
    obtain ⟨substitute, scalar, -⟩ := Outcome.bind_eq_ok.mp made
    exact ⟨substitute, scalar⟩
  | argocdRest _ _ _ _ | helm _ _ => simp [Settings.kind] at inCluster

/-- Where an update was taken in, the same update is taken in again. -/
private theorem Settings.Takes.insert (takes : settings.Takes id update objects intake name object)
    (new : Json) :
    settings.Takes id update (objects.insert (Store.key intake.kind intake.home name) new) intake name new := by
  have placed := SortedMap.get?_insert_self objects (Store.key intake.kind intake.home name) new
  cases takes with
  | application checked named _ => exact .application checked named placed
  | composite checked named _ => exact .composite checked named placed
  | @reconciled home _ path version wanted kind _ checked parsed first stored scalar =>
    have own : Store.key (kind.intake home).kind (kind.intake home).home name =
        Store.key kind.resource home name := by cases kind <;> rfl
    rw [own] at placed ⊢
    refine .reconciled checked parsed ?_ placed scalar
    -- The objects of the other kind are the same as before.
    rw [← first]
    congr 1
    funext other
    by_cases here : other = kind
    · rw [here, placed, stored]
      rfl
    · have plural : other.resource.plural ≠ kind.resource.plural := by
        cases other <;> cases kind <;> first | exact absurd rfl here | decide
      rw [SortedMap.get?_insert_of_ne _ (Store.key_ne_of_plural plural _ _ _ _)]

/-- An update that succeeds replaces the object of the deployment by one in which all that it asks for reads back
and everything else reads as before, as far as only objects stand on the way to what it writes. The same update
succeeds again at any time, and says nothing new then: only generation and version count on, and where objects
carry the time of the last request, that is the later one. -/
theorem update_merges (inCluster : settings.kind ∈ [.argocd, .crossplane, .flux])
    (reachable : memory.cluster.Reachable)
    (run : ((settings.operations now).updateDeployment id update).runInMemory now memory = (.ok d, after)) :
    ∃ intake name object new, settings.Takes id update memory.cluster.objects intake name object ∧
      after.cluster.objects =
        memory.cluster.objects.insert (Store.key intake.kind intake.home name) new ∧
      d = intake.read now new ∧ intake.Merged update object new ∧
      ∀ later, ∃ again last,
        ((settings.operations later).updateDeployment id update).runInMemory later after =
          (.ok (intake.read later again), last) ∧
        last.cluster.objects = after.cluster.objects.insert (Store.key intake.kind intake.home name) again ∧
        intake.Renewed later new again := by
  have found : ∃ intake name object, settings.Takes id update memory.cluster.objects intake name object :=
    ensures_takes inCluster memory _ _ rfl (Program.runs_of_runInMemory run) d rfl
  obtain ⟨intake, name, object, takes⟩ := found
  obtain ⟨generation, version, placed⟩ := intake.placed_eq_writes update now memory.cluster object
  rcases takes.runInMemory now reachable.named with ⟨⟨failure, refused⟩, -⟩ | ⟨accepted, updated⟩
  · rw [run] at refused
    cases refused
  rw [run] at updated
  cases updated
  have kept := (Program.runs_of_runInMemory run).keeps (fun memory => memory.cluster.Reachable)
    (Memory.reachable_answerTo now) (fun kind _ => .rejectUpdates kind) reachable
  have again := takes.insert (intake.placed update now memory.cluster object)
  refine ⟨intake, name, object, _, takes, rfl, rfl, Intake.merged placed, fun later => ?_⟩
  rcases Settings.Takes.runInMemory later again kept.named with ⟨-, rejected⟩ | ⟨-, updated⟩
  · exact absurd rejected accepted
  · obtain ⟨generation', version', placed'⟩ := intake.placed_eq_writes update later _
      (intake.placed update now memory.cluster object)
    exact ⟨_, _, updated, rfl, Intake.renewed placed placed'⟩

end

/-- An update of a kustomization: a substitution with dots in its name, a label and another path. -/
def relabelling : DeploymentUpdate where
  packageId := none
  values := .ofList [("web.port", .ofInt 8080)]
  labels := .ofList [("team", "edge")]
  extensions := .ofList [("path", .string "overlays/prod")]

/-- What is updated by it in a cluster with a kustomization and a helm release of one name. -/
def relabelled (now : Time.Instant) (memory : Memory) : Outcome Deployment × Memory :=
  (((Settings.flux "flux-system").operations now).updateDeployment "web" relabelling).runInMemory now memory

theorem update_merges_paired :
    pairedMemory.cluster.Reachable ∧ ∃ d after, relabelled ⟨1, 0⟩ pairedMemory = (.ok d, after) ∧
      ∃ intake name object new,
        (Settings.flux "flux-system").Takes "web" relabelling pairedMemory.cluster.objects intake name object ∧
        after.cluster.objects =
          pairedMemory.cluster.objects.insert (Store.key intake.kind intake.home name) new ∧
        d = intake.read ⟨1, 0⟩ new ∧ intake.Merged relabelling object new ∧
        ∀ later, ∃ again last, relabelled later after = (.ok (intake.read later again), last) ∧
          last.cluster.objects = after.cluster.objects.insert (Store.key intake.kind intake.home name) again ∧
          intake.Renewed later new again := by
  have reachable : pairedMemory.cluster.Reachable := .seed _ _ (.seed _ _ .empty)
  have inCluster : (Settings.flux "flux-system").kind ∈ [.argocd, .crossplane, .flux] := by decide
  obtain ⟨d, after, run⟩ : ∃ d after, relabelled ⟨1, 0⟩ pairedMemory = (.ok d, after) := ⟨_, _, rfl⟩
  exact ⟨reachable, d, after, run, update_merges inCluster reachable run⟩

/-- A kustomization in which only objects stand on the way to what an update writes does not stay as it is when
the same update comes once more: the mark of the last request is neither generation nor version, and is renewed. -/
theorem same_update_renews_mark :
    pairedMemory.cluster.Reachable ∧
    (∃ object, pairedMemory.cluster.object? Flux.kustomizationKind "flux-system" "web" = some object ∧
      object.Passable ((Flux.FluxKind.kustomization.intake "flux-system").places relabelling)) ∧
    ∃ d after d' last, relabelled ⟨1, 0⟩ pairedMemory = (.ok d, after) ∧
      relabelled ⟨2, 0⟩ after = (.ok d', last) ∧
      Flux.requestedAt.Diverges generationPath ∧ Flux.requestedAt.Diverges versionPath ∧
      (after.cluster.object? Flux.kustomizationKind "flux-system" "web").bind
        (fun object => object.lookup Flux.requestedAt) = some (.string "1970-01-01T00:00:01+00:00") ∧
      (last.cluster.object? Flux.kustomizationKind "flux-system" "web").bind
        (fun object => object.lookup Flux.requestedAt) = some (.string "1970-01-01T00:00:02+00:00") := by
  refine ⟨.seed _ _ (.seed _ _ .empty), ⟨_, rfl, by decide⟩, _, _, _, _, rfl, rfl, ?_, ?_, rfl, rfl⟩
  · decide
  · decide

end DeploymentGateway
