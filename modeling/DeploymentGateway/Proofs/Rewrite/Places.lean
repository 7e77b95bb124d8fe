import DeploymentGateway.Proofs.Rewrite.Identity
import DeploymentGateway.Proofs.Rewrite.Thread
/-!
Where the operations look for their objects, and that they rewrite what they find there.
-/

set_option autoImplicit false

namespace DeploymentGateway

open Cluster

section

variable {home : String} {now : Time.Instant} {places : List Place}

theorem applicationSearch_places {operation id : String} {check : Outcome Unit}
    {change : Json → Outcome Json}
    (asked : (applicationSearch home now operation id check change).places = .ok places) :
    places = [(applicationRewrite home now operation change).place id] ∧ id ≠ "" := by
  obtain ⟨⟨⟩, -, asked⟩ := Outcome.bind_eq_ok.mp asked
  obtain ⟨⟨⟩, checked, asked⟩ := Outcome.bind_eq_ok.mp asked
  cases asked
  exact ⟨rfl, Rules.ne_empty_of_checkName checked⟩

private theorem rewrites_applicationSearch {operation id : String} {check : Outcome Unit}
    {change : Json → Outcome Json} (edits : Edits change)
    (asked : (applicationSearch home now operation id check change).places = .ok places) :
    ∀ place ∈ places, place.Rewrites := by
  obtain ⟨rfl, nonempty⟩ := applicationSearch_places asked
  intro place mem
  rw [List.mem_singleton.mp mem]
  exact ⟨_, id, rfl, nonempty, edits⟩

theorem compositeSearch_places {kind : ResourceKind} {id : String}
    {update : DeploymentUpdate}
    (asked : (compositeSearch now kind id update).places = .ok places) :
    ∃ composition, places = [(compositeRewrite now kind id update composition).place id] ∧
      id ≠ "" := by
  obtain ⟨composition, -, asked⟩ := Outcome.bind_eq_ok.mp asked
  obtain ⟨⟨⟩, checked, asked⟩ := Outcome.bind_eq_ok.mp asked
  cases asked
  exact ⟨composition, rfl, Rules.ne_empty_of_checkName checked⟩

theorem Flux.ne_empty_of_parseId {id name : String} {kind : Option Flux.FluxKind}
    (parsed : Flux.parseId id = .ok (kind, name)) : name ≠ "" := by
  have named {kind' : Option Flux.FluxKind} {name' : String}
      (checked : (Rules.checkName "id" name' >>= fun _ => .ok (kind', name')) =
        Except.ok (kind, name)) : name ≠ "" := by
    obtain ⟨⟨⟩, passed, same⟩ := Outcome.bind_eq_ok.mp checked
    cases same
    exact Rules.ne_empty_of_checkName passed
  simp only [Flux.parseId] at parsed
  split at parsed
  · split at parsed
    · exact named parsed
    · cases parsed
  · exact named parsed

private theorem rewrites_fluxSearch {β : Type} {operation id : String} {check : Outcome β}
    {change : β → Flux.FluxKind → Json → Outcome Json} (edits : ∀ b kind, Edits (change b kind))
    (asked : (fluxSearch home operation id check fun b kind =>
      (fluxRewrite home now operation kind (change b kind)).program).places = .ok places) :
    ∀ place ∈ places, place.Rewrites := by
  obtain ⟨b, kind, name, -, parsed, rfl⟩ := fluxSearch_places _ asked
  intro place mem
  obtain ⟨kind, -, rfl⟩ := List.mem_map.mp mem
  exact ⟨fluxRewrite home now operation kind (change b kind), name, rfl,
    Flux.ne_empty_of_parseId parsed, Operation.edits_fluxRewrite now (edits b kind)⟩

end

/-- The keys of the objects that an id may mean, in the order in which they are looked for. -/
def fluxKeys (home id : String) : List ObjectKey :=
  match Flux.parseId id with
  | .ok (kind, name) => (fluxKinds kind).map fun kind => Store.key kind.resource home name
  | .error _ => []

private theorem nodup_fluxKeys (home id : String) : (fluxKeys home id).Nodup := by
  unfold fluxKeys
  rcases Flux.parseId id with failure | ⟨_ | kind, name⟩
  · simp
  · have apart : Store.key Flux.kustomizationKind home name ≠
        Store.key Flux.helmReleaseKind home name := Store.key_ne_of_plural (by decide) _ _ _ _
    simpa [fluxKinds, Flux.FluxKind.all, Flux.FluxKind.resource] using apart
  · simp [fluxKinds]

namespace Operation

/-- The keys under which an operation looks for its object, in their order. -/
def keys : Operation → List ObjectKey
  | applicationUpdate home id _ | applicationScale home id _ | applicationRollback home id _ =>
    [Store.key Application.kind home id]
  | compositeUpdate kind id _ => [Store.key kind "" id]
  | fluxUpdate home id _ | fluxScale home id _ | fluxRollback home id _ => fluxKeys home id

/-- An operation changes one object only, and rewrites that. It is so for all but the rollback of a
kustomization, which also pins a repository: a rollback must not find a kustomization, nor may one be
made where it looks. -/
def SingleObject (target : ObjectKey) (store : Store) : Operation → Prop
  | fluxRollback home id _ =>
    ∀ key ∈ fluxKeys home id, key.plural = Flux.kustomizationKind.plural →
      key ≠ target ∧ store.objects.get? key = none
  | _ => True

variable {operation : Operation} {now : Time.Instant} {places : List Place}

theorem nodup_keys (operation : Operation) : operation.keys.Nodup := by
  cases operation with
  | applicationUpdate _ _ _ | applicationScale _ _ _ | applicationRollback _ _ _
  | compositeUpdate _ _ _ => simp [keys]
  | fluxUpdate home id _ | fluxScale home id _ | fluxRollback home id _ =>
    exact nodup_fluxKeys home id

private theorem fluxKeys_of_places {β : Type} {home backend id : String} {check : Outcome β}
    {go : β → Flux.FluxKind → Json → Program Deployment}
    (asked : (fluxSearch home backend id check go).places = .ok places) :
    places.map Place.key = fluxKeys home id := by
  obtain ⟨b, kind, name, -, parsed, rfl⟩ := fluxSearch_places _ asked
  rw [fluxKeys, parsed, List.map_map]
  rfl

theorem keys_of_places (asked : (operation.search now).places = .ok places) :
    places.map Place.key = operation.keys := by
  cases operation with
  | applicationUpdate _ _ _ | applicationScale _ _ _ | applicationRollback _ _ _ =>
    obtain ⟨rfl, -⟩ := applicationSearch_places asked
    rfl
  | compositeUpdate _ _ _ =>
    obtain ⟨composition, rfl, -⟩ := compositeSearch_places asked
    rfl
  | fluxUpdate _ _ _ | fluxScale _ _ _ | fluxRollback _ _ _ => exact fluxKeys_of_places asked

private theorem rewrites_fluxRollback {home id : String} {revision : Int64} {target : ObjectKey}
    {store : Store} (single : (fluxRollback home id revision).SingleObject target store)
    (asked : ((fluxRollback home id revision).search now).places = .ok places) :
    ∀ place ∈ places,
      place.Rewrites ∨ place.key ≠ target ∧ store.objects.get? place.key = none := by
  have keys := keys_of_places asked
  obtain ⟨b, kind, name, -, parsed, rfl⟩ := fluxSearch_places _ asked
  intro place mem
  have among : place.key ∈ (fluxRollback home id revision).keys := by
    rw [← keys]
    exact List.mem_map_of_mem mem
  obtain ⟨_ | _, -, rfl⟩ := List.mem_map.mp mem
  · exact .inr (single _ among rfl)
  · exact .inl ⟨fluxRewrite home now "rollback" .helmRelease (fluxRollbackChange now id revision),
      name, rfl, Flux.ne_empty_of_parseId parsed,
      edits_fluxRewrite now (edits_fluxRollbackChange now id revision)⟩

/-- An operation that changes one object only rewrites whatever it may find. -/
theorem suited {target : ObjectKey} {store : Store} (now : Time.Instant)
    (single : operation.SingleObject target store) :
    (operation.search now).Suited target store where
  distinct places asked := by
    rw [keys_of_places asked]
    exact operation.nodup_keys
  rewrites places asked place mem := by
    cases operation with
    | applicationUpdate home id update =>
      have edits := Application.edits_applyUpdate update
      exact .inl (rewrites_applicationSearch edits asked place mem)
    | applicationScale home id replicas =>
      have edits := Application.edits_setReplicas replicas
      exact .inl (rewrites_applicationSearch edits asked place mem)
    | applicationRollback home id revision =>
      have edits := Application.edits_pinned id revision
      exact .inl (rewrites_applicationSearch edits asked place mem)
    | compositeUpdate kind id update =>
      obtain ⟨composition, rfl, nonempty⟩ := compositeSearch_places asked
      rw [List.mem_singleton.mp mem]
      exact .inl ⟨_, id, rfl, nonempty, Composite.edits_applyUpdate update composition⟩
    | fluxUpdate home id update =>
      have edits (asked : Option String × Option String) (kind : Flux.FluxKind) :=
        Flux.edits_applyUpdate kind update asked.1 asked.2
      exact .inl (rewrites_fluxSearch edits asked place mem)
    | fluxScale home id replicas =>
      have edits (_ : Unit) (kind : Flux.FluxKind) := edits_fluxScaleChange replicas kind
      exact .inl (rewrites_fluxSearch edits asked place mem)
    | fluxRollback home id revision => exact rewrites_fluxRollback single asked place mem

end Operation

end DeploymentGateway
