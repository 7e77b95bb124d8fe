import DeploymentGateway.Proofs.Cluster.Store
import DeploymentGateway.Proofs.Rewrite.Operation
/-!
Where objects say which deployment they are, and that what operations write into an object lies elsewhere.
There is one exception: the parameters of a composite are the caller's to set, and one of them is its
namespace.
-/

set_option autoImplicit false

namespace DeploymentGateway

open Cluster

/-- Two deployments have the same id, name and namespace. -/
structure Deployment.Same (a b : Deployment) : Prop where
  id : a.id = b.id
  name : a.name = b.name
  «namespace» : a.namespace = b.namespace

/-- Where the objects of all back ends say which deployment they are. -/
def identityPaths : List Json.Path := [
  namePath, ["metadata", "namespace"], ["spec", "destination", "namespace"],
  ["spec", "parameters", "namespace"], ["spec", "targetNamespace"]]

/-- Two objects say that they are the same deployment. -/
def SameIdentity (a b : Json) : Prop :=
  ∀ path ∈ identityPaths, a.stringAt path = b.stringAt path

namespace SameIdentity

variable {a b c : Json}

theorem refl (a : Json) : SameIdentity a a :=
  fun _ _ => rfl

theorem trans (first : SameIdentity a b) (second : SameIdentity b c) : SameIdentity a c :=
  fun path mem => (first path mem).trans (second path mem)

theorem nameOf_eq (same : SameIdentity a b) : nameOf a = nameOf b :=
  same namePath (by simp [identityPaths])

theorem namespaceOf_eq (same : SameIdentity a b) : namespaceOf a = namespaceOf b :=
  same ["metadata", "namespace"] (by simp [identityPaths])

private theorem names :
    ∀ path ∈ identityPaths, ∀ segment ∈ path, Text.readNatural? Json.greatestIndex segment = none := by
  decide

/-- A write away from these places is not seen there. -/
theorem set {place : Json.Path} (away : ∀ path ∈ identityPaths, Json.Path.Diverges place path)
    (object new : Json) : SameIdentity (object.set new place) object := by
  intro path mem
  exact Json.stringAt_set_of_names (away path mem) (names path mem) object new

theorem setAll {place : Json.Path}
    (away : ∀ name, ∀ path ∈ identityPaths, Json.Path.Diverges (place ++ [name]) path)
    (object : Json) (fields : List (String × Json)) :
    SameIdentity (object.setAll place fields) object := by
  induction fields generalizing object with
  | nil => exact refl object
  | cons field rest ih => exact (ih _).trans (set (away field.1) object field.2)

/-- The parameter that is the namespace may be written too, if it stays what it is. -/
private theorem set_parameter {object value : Json} (name : String)
    (kept : name = "namespace" →
      value.string?.getD "" = object.stringAt ["spec", "parameters", "namespace"]) :
    SameIdentity (object.set value ["spec", "parameters", name]) object := by
  by_cases own : name = "namespace"
  · subst own
    intro path mem
    by_cases here : path = ["spec", "parameters", "namespace"]
    · subst here
      rw [← kept rfl, Json.stringAt, Json.string?At, Json.lookup_set_self, Option.bind_some]
    · have away : Json.Path.Diverges ["spec", "parameters", "namespace"] path := by
        simp only [identityPaths, List.mem_cons, List.not_mem_nil, or_false] at mem
        rcases mem with rfl | rfl | rfl | rfl | rfl
        all_goals simp at here ⊢
      exact Json.stringAt_set_of_names away (names path mem) object value
  · exact set (by simp [identityPaths, own]) object value

theorem setAll_parameters {object : Json} {fields : List (String × Json)}
    (kept : ∀ field ∈ fields, field.1 = "namespace" →
      field.2.string?.getD "" = object.stringAt ["spec", "parameters", "namespace"]) :
    SameIdentity (object.setAll ["spec", "parameters"] fields) object := by
  induction fields generalizing object with
  | nil => exact refl object
  | cons field rest ih =>
    obtain ⟨first, others⟩ := List.forall_mem_cons.mp kept
    have step : SameIdentity (object.set field.2 ["spec", "parameters", field.1]) object :=
      set_parameter field.1 first
    have still := step ["spec", "parameters", "namespace"] (by simp [identityPaths])
    exact (ih fun field mem own => (others field mem own).trans still.symm).trans step

end SameIdentity

theorem sameIdentity_written (store : Store) (object : Json) :
    SameIdentity (store.written object) object :=
  SameIdentity.set (by simp [identityPaths]) object _

theorem sameIdentity_succeeding (current object : Json) :
    SameIdentity (Store.succeeding current object) object :=
  SameIdentity.set (by simp [identityPaths]) object _

private theorem sameIdentity_labels (object : Json) (labels : Labels) :
    SameIdentity (object.setAll ["metadata", "labels"] labels.toFields) object :=
  SameIdentity.setAll (by simp [identityPaths]) object _

namespace Application

/-- Applications with one identity are one deployment. -/
theorem same_toDeployment {a b : Json} (same : SameIdentity a b) (now later : Time.Instant) :
    (toDeployment now a).Same (toDeployment later b) where
  id := same.nameOf_eq
  name := same.nameOf_eq
  «namespace» := same ["spec", "destination", "namespace"] (by simp [identityPaths])

theorem sameIdentity_applyUpdate (app : Json) (update : DeploymentUpdate) :
    SameIdentity (applyUpdate app update) app := by
  have valued : SameIdentity (app.setAll ["spec", "source", "helm", "valuesObject"]
      update.values.toList) app :=
    SameIdentity.setAll (by simp [identityPaths]) app _
  have sourced (object : Json) (fields : List (String × Json)) :
      SameIdentity (object.setAll ["spec", "source"] fields) object :=
    SameIdentity.setAll (by simp [identityPaths]) object fields
  exact ((sourced _ _).trans (sameIdentity_labels _ _)).trans valued

theorem sameIdentity_setReplicas {app changed : Json} {replicas : Int32}
    (run : setReplicas app replicas = .ok changed) : SameIdentity changed app := by
  unfold setReplicas at run
  split at run
  · cases run
  · cases run
    exact SameIdentity.set (by simp [identityPaths]) app _

theorem sameIdentity_pinned {app changed : Json} {id : String} {revision : Int64}
    (run : OnCluster.pinned app id revision = .ok changed) : SameIdentity changed app := by
  have target (object new : Json) :
      SameIdentity (object.set new ["spec", "source", "targetRevision"]) object :=
    SameIdentity.set (by simp [identityPaths]) object new
  have refresh (object new : Json) :
      SameIdentity (object.set new ["metadata", "annotations", refreshAnnotation]) object :=
    SameIdentity.set (by simp [identityPaths]) object new
  obtain ⟨index, -, run⟩ := Outcome.bind_eq_ok.mp run
  dsimp only at run
  split at run
  · cases run
  · cases run
    exact (refresh _ _).trans (target _ _)

end Application

namespace Composite

theorem same_toDeployment {a b : Json} (same : SameIdentity a b) (now later : Time.Instant) :
    (toDeployment now a).Same (toDeployment later b) where
  id := same.nameOf_eq
  name := same.nameOf_eq
  «namespace» := same ["spec", "parameters", "namespace"] (by simp [identityPaths])

private theorem sameIdentity_markPackage (composite : Json) (package : Option String) :
    SameIdentity (markPackage composite package) composite := by
  unfold markPackage
  split
  · split
    · exact SameIdentity.refl composite
    · exact SameIdentity.set (by simp [identityPaths, packageNote]) composite _
  · exact SameIdentity.refl composite

/-- An update does not tell its composite another namespace than it has. -/
def KeepsNamespace (update : DeploymentUpdate) («namespace» : String) : Prop :=
  ∀ value, update.values.get? "namespace" = some value → value.string?.getD "" = «namespace»

theorem sameIdentity_applyUpdate {composite : Json} {update : DeploymentUpdate}
    (keeps : KeepsNamespace update (composite.stringAt ["spec", "parameters", "namespace"]))
    (composition : Option String) :
    SameIdentity (applyUpdate composite update composition) composite := by
  have valued : SameIdentity (composite.setAll ["spec", "parameters"] update.values.toList)
      composite := by
    refine SameIdentity.setAll_parameters fun (name, value) mem own => keeps value ?_
    obtain rfl : name = "namespace" := own
    exact SortedMap.mem_toList_iff.mp mem
  have composed (object new : Json) :
      SameIdentity (object.set new ["spec", "compositionRef", "name"]) object :=
    SameIdentity.set (by simp [identityPaths]) object new
  rcases composition with _ | composition
  · exact ((sameIdentity_markPackage _ _).trans (sameIdentity_labels _ _)).trans valued
  · exact (((sameIdentity_markPackage _ _).trans (composed _ _)).trans (sameIdentity_labels _ _)).trans
      valued

end Composite

namespace Flux

theorem same_toDeployment {a b : Json} (same : SameIdentity a b) (kind : FluxKind)
    (now later : Time.Instant) : (toDeployment now kind a).Same (toDeployment later kind b) where
  id := congrArg (deploymentId kind) same.nameOf_eq
  name := same.nameOf_eq
  «namespace» := by
    have target := same ["spec", "targetNamespace"] (by simp [identityPaths])
    simp only [toDeployment, targetNamespace, target, same.namespaceOf_eq]

theorem sameIdentity_requestReconcile (now : Time.Instant) (object : Json) :
    SameIdentity (requestReconcile now object) object :=
  SameIdentity.set (by simp [identityPaths, requestedAt]) object _

private theorem sameIdentity_version (object new : Json) :
    SameIdentity (object.set new ["spec", "chart", "spec", "version"]) object :=
  SameIdentity.set (by simp [identityPaths]) object new

theorem sameIdentity_applyUpdate {kind : FluxKind} {object changed : Json}
    {update : DeploymentUpdate} {path version : Option String}
    (run : applyUpdate kind object update path version = .ok changed) :
    SameIdentity changed object := by
  cases kind with
  | helmRelease =>
    have valued : SameIdentity (object.setAll ["spec", "values"] update.values.toList) object :=
      SameIdentity.setAll (by simp [identityPaths]) object _
    rcases version with _ | version
    · cases run
      exact (sameIdentity_labels _ _).trans valued
    · cases run
      exact ((sameIdentity_labels _ _).trans (sameIdentity_version _ _)).trans valued
  | kustomization =>
    obtain ⟨fields, -, run⟩ := Outcome.bind_eq_ok.mp run
    have substituted : SameIdentity (object.setAll ["spec", "postBuild", "substitute"] fields)
        object := SameIdentity.setAll (by simp [identityPaths]) object fields
    have placed (object new : Json) : SameIdentity (object.set new ["spec", "path"]) object :=
      SameIdentity.set (by simp [identityPaths]) object new
    rcases path with _ | path
    · cases run
      exact (sameIdentity_labels _ _).trans substituted
    · cases run
      exact ((sameIdentity_labels _ _).trans (placed _ _)).trans substituted

theorem sameIdentity_fluxScaleChange {kind : FluxKind} {object changed : Json} {replicas : Int32}
    (run : Operation.fluxScaleChange replicas kind object = .ok changed) :
    SameIdentity changed object := by
  cases kind with
  | kustomization => cases run
  | helmRelease =>
    cases run
    exact SameIdentity.set (by simp [identityPaths]) object _

theorem sameIdentity_fluxRollbackChange {now : Time.Instant} {object changed : Json} {id : String}
    {revision : Int64} (run : Operation.fluxRollbackChange now id revision object = .ok changed) :
    SameIdentity changed object := by
  obtain ⟨index, -, run⟩ := Outcome.bind_eq_ok.mp run
  cases run
  exact sameIdentity_version _ _

end Flux

end DeploymentGateway
