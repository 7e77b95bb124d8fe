import DeploymentGateway.Application.OnCluster
import DeploymentGateway.Proofs.Json.Difference
import DeploymentGateway.Proofs.Program
/-!
Scaling an application. The number of replicas becomes the one parameter of its name, and all other parameters
stay as they are, in their order. Nothing beside the parameters is seen to change, and a second number takes the
place of the first one. A source that renders no chart has no parameters, so it is refused and left alone.
-/

set_option autoImplicit false

namespace DeploymentGateway.Application

/-- Where an application has the parameters of its chart. -/
def parametersPath : Json.Path :=
  ["spec", "source", "helm", "parameters"]

/-- A parameter sets the number of replicas. One without a name, or with a name that is no text, does not. -/
def setsReplicas (parameter : Json) : Bool :=
  parameter.string?At ["name"] == some replicaParameter

/-- The source of an application names a chart, or has settings for one. -/
def RendersChart (app : Json) : Prop :=
  app.stringAt ["spec", "source", "chart"] ≠ "" ∨ (app.lookup ["spec", "source", "helm"]).isSome

/-- An application was scaled to a number of replicas. -/
structure Scaled (app : Json) (replicas : Int32) (scaled : Json) : Prop where
  parameters : ∃ parameters, scaled.lookup parametersPath = some (.array parameters) ∧
    (∃ only, parameters.filter setsReplicas = [only] ∧
      only.lookup ["value"] = some (.string (toString replicas.toInt))) ∧
    (parameters.filter fun parameter => !setsReplicas parameter) =
      (app.arrayAt parametersPath).filter fun parameter => !setsReplicas parameter
  elsewhere : app.HasObject ["spec", "source", "helm"] → ∀ path,
    Json.Path.Diverges parametersPath path → scaled.lookup path = app.lookup path

/-- The parameters of an application that do not set the number of replicas. -/
def otherParameters (app : Json) : List Json :=
  (app.arrayAt parametersPath).filter fun parameter => !setsReplicas parameter

/-- The parameter that sets a number of replicas. -/
def parameterOf (replicas : Int32) : Json :=
  .ofPairs [("name", .string replicaParameter),
    ("value", .string (Text.signedDecimal replicas.toInt))]

/-- An application with a number of replicas among its parameters. -/
def withReplicas (app : Json) (replicas : Int32) : Json :=
  app.set (.array (otherParameters app ++ [parameterOf replicas])) parametersPath

section

variable {app : Json} {replicas : Int32}

theorem helm_iff : (Source.ofApplication app).helm = true ↔ RendersChart app := by
  simp [Source.ofApplication, RendersChart]

theorem setReplicas_of_rendersChart (renders : RendersChart app) (replicas : Int32) :
    setReplicas app replicas = .ok (withReplicas app replicas) := by
  rw [setReplicas, helm_iff.mpr renders]
  rfl

theorem setReplicas_of_plain (plain : ¬ RendersChart app) (replicas : Int32) :
    ∃ failure, setReplicas app replicas = .error failure ∧ failure.kind = .unsupported := by
  have none : (Source.ofApplication app).helm = false :=
    Bool.eq_false_iff.mpr fun helm => plain (helm_iff.mp helm)
  rw [setReplicas, none]
  exact ⟨_, rfl, rfl⟩

@[simp]
theorem setsReplicas_parameterOf (replicas : Int32) : setsReplicas (parameterOf replicas) = true := by
  simp [setsReplicas, parameterOf, Json.string?At, Json.lookup, Json.string?]

theorem lookup_value_parameterOf (replicas : Int32) :
    (parameterOf replicas).lookup ["value"] = some (.string (toString replicas.toInt)) := by
  have decimal : Text.signedDecimal replicas.toInt = toString replicas.toInt := by
    cases replicas.toInt <;> rfl
  simp [parameterOf, Json.lookup, decimal]

theorem lookup_withReplicas (app : Json) (replicas : Int32) :
    (withReplicas app replicas).lookup parametersPath =
      some (.array (otherParameters app ++ [parameterOf replicas])) :=
  Json.lookup_set_self _ _ _

theorem otherParameters_withReplicas (app : Json) (replicas : Int32) :
    otherParameters (withReplicas app replicas) = otherParameters app := by
  have listed : (withReplicas app replicas).arrayAt parametersPath =
      otherParameters app ++ [parameterOf replicas] := by
    rw [Json.arrayAt, lookup_withReplicas]
    rfl
  rw [otherParameters, listed, List.filter_append]
  simp [otherParameters]

/-- A second number of replicas takes the place of the first. -/
theorem withReplicas_withReplicas (app : Json) (first second : Int32) :
    withReplicas (withReplicas app first) second = withReplicas app second := by
  rw [withReplicas, otherParameters_withReplicas, withReplicas, Json.set_set, withReplicas]

/-- With a parameter of its chart, an application has settings for a chart. -/
theorem rendersChart_withReplicas (app : Json) (replicas : Int32) :
    RendersChart (withReplicas app replicas) := by
  have onWay : ["spec", "source", "helm"] <+: parametersPath := by decide
  obtain ⟨fields, settings⟩ := Json.hasObject_set onWay (by decide) app
    (.array (otherParameters app ++ [parameterOf replicas]))
  right
  rw [withReplicas, settings]
  rfl

/-- Where an application has settings for its chart, a write of the parameters is seen there only. -/
theorem lookup_withReplicas_of_diverges (settings : app.HasObject ["spec", "source", "helm"])
    {path : Json.Path} (away : Json.Path.Diverges parametersPath path) :
    (withReplicas app replicas).lookup path = app.lookup path := by
  refine Json.lookup_set_of_diverges away app _ fun above items onWay toPath array => ?_
  have short : above <+: ["spec", "source", "helm"] := by
    rcases List.prefix_concat_iff.mp (show above <+: ["spec", "source", "helm"] ++ ["parameters"] from onWay)
      with rfl | short
    · exact absurd toPath away.1
    · exact short
  obtain ⟨rest, whole⟩ := short
  obtain ⟨fields, object⟩ := settings
  rcases rest.eq_nil_or_concat with rfl | ⟨_, _, further⟩
  · rw [List.append_nil] at whole
    rw [whole, object] at array
    cases array
  · have named : ∀ segment ∈ rest, Text.readNatural? Json.greatestIndex segment = none := by
      have all : ∀ segment ∈ ["spec", "source", "helm"],
          Text.readNatural? Json.greatestIndex segment = none := by decide
      rw [← whole] at all
      exact fun segment mem => all segment (List.mem_append_right above mem)
    have nothing := Json.lookup_append_of_array array (by simp [further]) named
    rw [whole, object] at nothing
    cases nothing

theorem scaled_withReplicas (app : Json) (replicas : Int32) :
    Scaled app replicas (withReplicas app replicas) where
  parameters := by
    refine ⟨_, lookup_withReplicas app replicas, ⟨parameterOf replicas, ?_, ?_⟩, ?_⟩
    · have none : (otherParameters app).filter setsReplicas = [] := by
        simp [otherParameters, List.filter_filter]
      rw [List.filter_append, none]
      simp
    · exact lookup_value_parameterOf replicas
    · rw [List.filter_append]
      simp [otherParameters]
  elsewhere settings path away := lookup_withReplicas_of_diverges settings away

end

/-- To scale an application that renders a chart sets its one number of replicas and changes nothing else that
reads see, and it does not matter how it was scaled before. An application that renders none is refused, and
stays in the cluster as it is. -/
theorem setReplicas_replaces (app : Json) (replicas : Int32) :
    (RendersChart app → ∃ scaled, setReplicas app replicas = .ok scaled ∧ Scaled app replicas scaled ∧
      ∀ again, setReplicas scaled again = setReplicas app again) ∧
    (¬ RendersChart app → ∃ failure, setReplicas app replicas = .error failure ∧
      failure.kind = .unsupported ∧
      ∀ home now id memory, memory.cluster.object? kind home id = some app →
        Rules.checkName "id" id = .ok () → 0 ≤ replicas →
        (OnCluster.scaleDeployment home now id replicas).runInMemory now memory =
          (.error failure, memory)) := by
  constructor
  · intro renders
    refine ⟨_, setReplicas_of_rendersChart renders replicas, scaled_withReplicas app replicas,
      fun again => ?_⟩
    rw [setReplicas_of_rendersChart (rendersChart_withReplicas app replicas),
      setReplicas_of_rendersChart renders, withReplicas_withReplicas]
  · intro plain
    obtain ⟨failure, refused, unsupported⟩ := setReplicas_of_plain plain replicas
    refine ⟨failure, refused, unsupported, fun home now id memory stored named counted => ?_⟩
    have count : Rules.checkReplicas replicas = .ok () := if_neg (Int32.not_lt.mpr counted)
    simp [OnCluster.scaleDeployment, OnCluster.application, named, count, refused,
      Cluster.Store.get, stored]

/-- An application with a chart that has three parameters, one of them twice and one without a name. -/
def shop : Json :=
  .ofPairs [("spec", .ofPairs [("project", .string "default"), ("source", .ofPairs [("helm", .ofPairs [
    ("parameters", .array [
      .ofPairs [("name", .string "replicaCount"), ("value", .string "1")],
      .ofPairs [("name", .string "image.tag"), ("value", .string "1.25")],
      .ofPairs [("name", .string "replicaCount"), ("value", .string "2")],
      .ofPairs [("value", .string "unnamed")]])])])])]

/-- An application of plain manifests. -/
def leaflet : Json :=
  .ofPairs [("spec", .ofPairs [("source", .ofPairs [("path", .string "web")])])]

theorem setReplicas_replaces_shop :
    (RendersChart shop ∧ ∃ scaled, setReplicas shop 3 = .ok scaled ∧ Scaled shop 3 scaled ∧
      scaled.lookup ["spec", "project"] = some (.string "default") ∧
      setReplicas scaled 5 = setReplicas shop 5) ∧
    ¬ RendersChart leaflet ∧ ∃ memory failure,
      (OnCluster.scaleDeployment "argocd" ⟨0, 0⟩ "web" 3).runInMemory ⟨0, 0⟩ memory =
        (.error failure, memory) ∧ failure.kind = .unsupported := by
  constructor
  · have renders : RendersChart shop := .inr rfl
    obtain ⟨scaled, run, changed, again⟩ := (setReplicas_replaces shop 3).1 renders
    have project := changed.elsewhere ⟨_, rfl⟩ ["spec", "project"] (by simp [parametersPath])
    exact ⟨renders, scaled, run, changed, project, again 5⟩
  · have plain : ¬ RendersChart leaflet := by
      rintro (chart | helm)
      · exact chart rfl
      · cases helm
    obtain ⟨failure, -, unsupported, left⟩ := (setReplicas_replaces leaflet 3).2 plain
    let memory : Memory := { Memory.empty with cluster := { Cluster.Store.empty with
      objects := SortedMap.empty.insert (Cluster.Store.key kind "argocd" "web") leaflet } }
    have stored : memory.cluster.object? kind "argocd" "web" = some leaflet :=
      SortedMap.get?_insert_self _ _ _
    exact ⟨plain, memory, failure, left "argocd" ⟨0, 0⟩ "web" memory stored (by decide) (by decide),
      unsupported⟩

end DeploymentGateway.Application
