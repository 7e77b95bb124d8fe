import DeploymentGateway.Application.Object
import DeploymentGateway.Composite.Object
import DeploymentGateway.Proofs.Flux.Creation
/-!
What new objects say of the requests that they are built for. Objects of each kind have their own places for
the namespace that they deploy to and for the values. What is written there is what the request asks for, and
the cluster leaves it alone when it takes the object in.
-/

set_option autoImplicit false

namespace DeploymentGateway

open Cluster

theorem Extensions.child?_toJson (values : Extensions) (name : String) :
    values.toJson.child? name = values.get? name := by
  have same (fields : List (String × Json)) :
      Fields.get? name fields = SortedMap.lookup name fields := by
    induction fields with
    | nil => rfl
    | cons field rest ih =>
      obtain ⟨key, value⟩ := field
      by_cases here : key = name
      · simp [Fields.get?, SortedMap.lookup, here]
      · simp [Fields.get?, SortedMap.lookup, here, ih]
  exact same values.toList

/-- The fields of the object at a path, none of them where there is no object. -/
def Json.objectAt (value : Json) (path : Json.Path) : List (String × Json) :=
  ((value.lookup path).bind Json.object?).getD []

theorem Cluster.textsAt_of_lookup {object : Json} {path : Json.Path} {texts : Labels}
    (found : object.lookup path = some texts.toJson) : textsAt object path = texts := by
  have fields : (texts.toFields.filterMap fun field => field.2.string?.map fun s => (field.1, s)) =
      texts.toList := by
    rw [Labels.toFields, List.filterMap_map]
    exact List.filterMap_some
  rw [textsAt, found]
  change SortedMap.ofList (texts.toFields.filterMap _) = texts
  rw [fields, SortedMap.ofList_toList]

/-- Where in their specification objects of a kind have the namespace that they deploy to, and where they
have the values. Both are reached by names alone, as an index could mean an item of an array. -/
structure Layout where
  space : Json.Path
  values : Json.Path
  names : ∀ segment ∈ space ++ values, Text.readNatural? Json.greatestIndex segment = none

/-- The places of a layout together with those that objects of all kinds have. -/
def Layout.paths (layout : Layout) : List Json.Path :=
  [namePath, ["metadata", "labels"], "spec" :: layout.space, "spec" :: layout.values]

theorem Layout.names_of_mem_paths {layout : Layout} {path : Json.Path} (mem : path ∈ layout.paths) :
    ∀ segment ∈ path, Text.readNatural? Json.greatestIndex segment = none := by
  have spec : Text.readNatural? Json.greatestIndex "spec" = none := by decide
  simp only [paths, List.mem_cons, List.not_mem_nil, or_false] at mem
  rcases mem with rfl | rfl | rfl | rfl
  · decide
  · decide
  · exact List.forall_mem_cons.mpr ⟨spec, fun segment mem => layout.names segment
      (List.mem_append_left _ mem)⟩
  · exact List.forall_mem_cons.mpr ⟨spec, fun segment mem => layout.names segment
      (List.mem_append_right _ mem)⟩

/-- An object conveys what a request asks for, with some values. -/
structure Conveys (request : DeploymentRequest) (layout : Layout) (values : List (String × Json))
    (object : Json) : Prop where
  named : nameOf object = request.name
  labels : object.lookup ["metadata", "labels"] = some request.labels.toJson
  «namespace» : object.stringAt ("spec" :: layout.space) = request.namespace
  values : object.objectAt ("spec" :: layout.values) = values

namespace Conveys

variable {request : DeploymentRequest} {layout : Layout} {values : List (String × Json)}
  {object : Json} (conveys : Conveys request layout values object)

include conveys

theorem labelsOf_eq : labelsOf object = request.labels :=
  textsAt_of_lookup conveys.labels

/-- A write elsewhere in the object does not change what it conveys. -/
theorem set {place : Json.Path} (away : ∀ path ∈ layout.paths, Json.Path.Diverges place path)
    (new : Json) : Conveys request layout values (object.set new place) := by
  have same (path : Json.Path) (mem : path ∈ layout.paths) :
      (object.set new place).lookup path = object.lookup path :=
    Json.lookup_set_of_names (away path mem) (layout.names_of_mem_paths mem) object new
  constructor
  · rw [nameOf, Json.stringAt, Json.string?At, same _ (by simp [Layout.paths])]
    exact conveys.named
  · rw [same _ (by simp [Layout.paths])]
    exact conveys.labels
  · rw [Json.stringAt, Json.string?At, same _ (by simp [Layout.paths])]
    exact conveys.namespace
  · rw [Json.objectAt, same _ (by simp [Layout.paths])]
    exact conveys.values

theorem set_ite {place : Json.Path} (away : ∀ path ∈ layout.paths, Json.Path.Diverges place path)
    (given : Bool) (new : Json) :
    Conveys request layout values (if given then object.set new place else object) := by
  split
  · exact conveys.set away new
  · exact conveys

/-- The cluster writes elsewhere when it takes the object in. -/
theorem written_admitted (now : Time.Instant) (kind : ResourceKind) (home : String) (store : Store) :
    Conveys request layout values (store.written (Store.admitted now kind home object)) := by
  have placed : Conveys request layout values
      (if kind.namespaced then object.set (.string home) ["metadata", "namespace"] else object) :=
    conveys.set_ite (by simp [Layout.paths]) _ _
  exact ((((placed.set (by simp [Layout.paths]) _).set (by simp [Layout.paths]) _).set
    (by simp [Layout.paths]) _).set (by simp [Layout.paths]) _).set (by simp [Layout.paths]) _

end Conveys

namespace Application

/-- Applications have the values of their charts with their source. -/
def layout : Layout where
  space := ["destination", "namespace"]
  values := ["source", "helm", "valuesObject"]
  names := by decide

variable {home : String} {request : DeploymentRequest} {app : Json}

theorem checkName_of_build (built : build home request = .ok app) :
    Rules.checkName "name" request.name = .ok () := by
  obtain ⟨⟨⟩, checked, -⟩ := Outcome.bind_eq_ok.mp built
  exact checked

private theorem objectAt_newSource (repoUrl path targetRevision : String) (chart : Option String)
    (values : Extensions) :
    (newSource repoUrl path targetRevision chart values).objectAt ["helm", "valuesObject"] =
      values.toList := by
  unfold newSource
  dsimp only
  split
  · rw [Json.objectAt, Json.lookup_set_self]
    rfl
  · rename_i plain
    rcases chart with _ | chart
    · have none_given : values.toList = [] := by simpa [SortedMap.isEmpty] using plain
      rw [none_given]
      simp [Json.objectAt, Json.lookup]
    · exact absurd rfl plain

theorem conveys_of_build (built : build home request = .ok app) :
    Conveys request layout request.values.toList app := by
  obtain ⟨-, -, built⟩ := Outcome.bind_eq_ok.mp built
  obtain ⟨-, -, built⟩ := Outcome.bind_eq_ok.mp built
  obtain ⟨repoUrl, -, built⟩ := Outcome.bind_eq_ok.mp built
  obtain ⟨path, -, built⟩ := Outcome.bind_eq_ok.mp built
  obtain ⟨-, -, built⟩ := Outcome.bind_eq_ok.mp built
  obtain ⟨chart, -, built⟩ := Outcome.bind_eq_ok.mp built
  obtain ⟨targetRevision, -, built⟩ := Outcome.bind_eq_ok.mp built
  obtain ⟨project, -, built⟩ := Outcome.bind_eq_ok.mp built
  obtain ⟨server, -, built⟩ := Outcome.bind_eq_ok.mp built
  obtain ⟨automated, -, built⟩ := Outcome.bind_eq_ok.mp built
  have values := objectAt_newSource repoUrl (path.getD "") (targetRevision.getD "HEAD") chart
    request.values
  cases built
  refine Conveys.set_ite ?_ (by simp [Layout.paths, layout]) _ _
  constructor
  · simp [nameOf, Json.stringAt, Json.string?At, Json.lookup, Json.string?]
  · simp [Json.lookup]
  · simp [layout, Json.stringAt, Json.string?At, Json.lookup, Json.string?]
  · simpa [layout, Json.objectAt, Json.lookup] using values

end Application

namespace Composite

/-- The namespace that a composite deploys to is one of its parameters. -/
def layout : Layout where
  space := ["parameters", "namespace"]
  values := ["parameters"]
  names := by decide

/-- The parameters of a composite are the values of its request, and its namespace. -/
def parameters (request : DeploymentRequest) : List (String × Json) :=
  (request.values.insert "namespace" (.string request.namespace)).toList

variable {kind : ResourceKind} {request : DeploymentRequest} {composite : Json}

theorem checkName_of_build (built : build kind request = .ok composite) :
    Rules.checkName "name" request.name = .ok () := by
  obtain ⟨⟨⟩, checked, -⟩ := Outcome.bind_eq_ok.mp built
  exact checked

theorem conveys_of_build (built : build kind request = .ok composite) :
    Conveys request layout (parameters request) composite := by
  obtain ⟨-, -, built⟩ := Outcome.bind_eq_ok.mp built
  obtain ⟨-, -, built⟩ := Outcome.bind_eq_ok.mp built
  obtain ⟨composition, -, built⟩ := Outcome.bind_eq_ok.mp built
  obtain ⟨-, -, built⟩ := Outcome.bind_eq_ok.mp built
  have marked {object : Json} (conveys : Conveys request layout (parameters request) object) :
      Conveys request layout (parameters request) (markPackage object request.packageId) := by
    unfold markPackage
    split
    · split
      · exact conveys
      · exact conveys.set (by simp [Layout.paths, layout, packageNote]) _
    · exact conveys
  cases built
  refine marked ?_
  constructor
  · simp [nameOf, Json.stringAt, Json.string?At, Json.lookup, Json.string?]
  · simp [Json.lookup]
  · simp [layout, Json.stringAt, Json.string?At, Json.lookup, Extensions.child?_toJson, Json.string?]
  · simp [layout, Json.objectAt, Json.lookup]
    rfl

/-- A new configuration has the name of its upload. -/
theorem nameOf_buildConfiguration {upload : PackageUpload} {configuration : Json}
    (built : buildConfiguration upload = .ok configuration) : nameOf configuration = upload.name := by
  obtain ⟨-, -, built⟩ := Outcome.bind_eq_ok.mp built
  obtain ⟨reference, -, built⟩ := Outcome.bind_eq_ok.mp built
  obtain ⟨policy, -, built⟩ := Outcome.bind_eq_ok.mp built
  cases built
  simp [nameOf, Json.stringAt, Json.string?At, Json.lookup, Json.string?]

end Composite

namespace Flux

open OnCluster

/-- Where objects of a kind have their namespace and their values. The values of a kustomization are its
substitutions. -/
def FluxKind.layout : FluxKind → Layout
  | .kustomization => ⟨["targetNamespace"], ["postBuild", "substitute"], by decide⟩
  | .helmRelease => ⟨["targetNamespace"], ["values"], by decide⟩

/-- A value as a text: a text as it is, and all else written out. -/
def textOf : Json → String
  | .string s => s
  | value => value.render

/-- Values in the form that objects of a kind have them in. -/
def FluxKind.keptValues (values : Extensions) : FluxKind → List (String × Json)
  | .kustomization => values.toList.map fun (name, value) => (name, .string (textOf value))
  | .helmRelease => values.toList

variable {home : String} {request : DeploymentRequest} {object : Json}

/-- Substitutions are the values, each as a text. -/
theorem substitutions_eq {values : Extensions} {substitute : List (String × Json)}
    (taken : substitutions values = .ok substitute) :
    substitute = FluxKind.kustomization.keptValues values := by
  unfold substitutions at taken
  change _ = values.toList.map _
  generalize values.toList = fields at taken
  induction fields generalizing substitute with
  | nil =>
    cases taken
    rfl
  | cons field rest ih =>
    obtain ⟨name, value⟩ := field
    rw [List.mapM_cons] at taken
    obtain ⟨first, scalar, taken⟩ := Outcome.bind_eq_ok.mp taken
    obtain ⟨others, run, taken⟩ := Outcome.bind_eq_ok.mp taken
    cases taken
    rw [List.map_cons, ih run]
    congr 1
    cases value with
    | string s =>
      cases scalar
      rfl
    | number n =>
      cases scalar
      simp [textOf, Json.render]
    | bool b =>
      cases scalar
      cases b <;> rfl
    | null => cases scalar
    | array items => cases scalar
    | object fields => cases scalar

theorem conveys_of_buildKustomization {source : String}
    (built : buildKustomization home request source = .ok object) :
    Conveys request FluxKind.kustomization.layout (FluxKind.kustomization.keptValues request.values)
      object := by
  have named := nameOf_buildKustomization built
  obtain ⟨path, -, built⟩ := Outcome.bind_eq_ok.mp built
  obtain ⟨-, -, built⟩ := Outcome.bind_eq_ok.mp built
  obtain ⟨interval, -, built⟩ := Outcome.bind_eq_ok.mp built
  split at built
  · rename_i none_given
    cases built
    have empty : request.values.toList = [] := by simpa [SortedMap.isEmpty] using none_given
    refine ⟨named, ?_, ?_, ?_⟩
    · simp [Json.lookup, newMetadata]
    · simp [FluxKind.layout, Json.stringAt, Json.string?At, Json.lookup, Json.string?]
    · simp [FluxKind.layout, FluxKind.keptValues, Json.objectAt, Json.lookup, empty]
  · obtain ⟨substitute, taken, built⟩ := Outcome.bind_eq_ok.mp built
    cases built
    refine ⟨named, ?_, ?_, ?_⟩
    · rw [Json.lookup_set_of_names (by simp) (by decide)]
      simp [Json.lookup, newMetadata]
    · rw [FluxKind.layout, Json.stringAt_set_of_names (by simp) (by decide)]
      simp [Json.stringAt, Json.string?At, Json.lookup, Json.string?]
    · rw [← substitutions_eq taken, FluxKind.layout, Json.objectAt, Json.lookup_set_self]
      rfl

theorem conveys_of_buildHelmRelease (built : buildHelmRelease home request = .ok object) :
    Conveys request FluxKind.helmRelease.layout (FluxKind.helmRelease.keptValues request.values)
      object := by
  have named := nameOf_buildHelmRelease built
  obtain ⟨chart, -, built⟩ := Outcome.bind_eq_ok.mp built
  obtain ⟨source, -, built⟩ := Outcome.bind_eq_ok.mp built
  obtain ⟨-, -, built⟩ := Outcome.bind_eq_ok.mp built
  obtain ⟨sourceKind, -, built⟩ := Outcome.bind_eq_ok.mp built
  obtain ⟨version, -, built⟩ := Outcome.bind_eq_ok.mp built
  obtain ⟨interval, -, built⟩ := Outcome.bind_eq_ok.mp built
  cases built
  refine ⟨named, ?_, ?_, ?_⟩
  · simp [Json.lookup, newMetadata]
  · simp [FluxKind.layout, Json.stringAt, Json.string?At, Json.lookup, Json.string?]
  · simp [FluxKind.layout, FluxKind.keptValues, Json.objectAt, Json.lookup]
    rfl

end Flux

end DeploymentGateway
