import DeploymentGateway.Proofs.Cluster.Edit
import DeploymentGateway.Proofs.Rewrite.Operation
import DeploymentGateway.Proofs.Rules
/-!
No operation that rewrites an object touches its identity: what it changes lies away from version and
name, and what it looks at lies away from the version.
-/

set_option autoImplicit false

namespace DeploymentGateway

open Cluster

namespace Application

theorem edits_applyUpdate (update : DeploymentUpdate) :
    Edits fun app => .ok (applyUpdate app update) := by
  have values := Edits.setAll ["spec", "source", "helm", "valuesObject"] (by simp) (by simp)
    update.values.toList
  have labels := Edits.setAll ["metadata", "labels"] (by simp) (by simp) update.labels.toFields
  exact (values.bind labels).bind (Edits.setAll ["spec", "source"] (by simp) (by simp) _)

/-- Whether the source of an application renders a chart does not depend on its version. -/
theorem unversioned_helm : Unversioned fun app => (Source.ofApplication app).helm := by
  intro base x y
  have chart := Unversioned.stringAt
    (by simp : Json.Path.Diverges versionPath ["spec", "source", "chart"]) base x y
  have helm := Unversioned.lookup
    (by simp : Json.Path.Diverges versionPath ["spec", "source", "helm"]) base x y
  simp only at chart helm
  simp only [Source.ofApplication, chart, helm]

theorem edits_setReplicas (replicas : Int32) : Edits fun app => setReplicas app replicas := by
  let path := ["spec", "source", "helm", "parameters"]
  let parameter := Json.ofPairs [
    ("name", .string replicaParameter), ("value", .string (Text.signedDecimal replicas.toInt))]
  let others (parameters : List Json) := parameters.filter fun entry =>
    entry.string?At ["name"] != some replicaParameter
  have listed (parameters : List Json) :
      Edits fun app => .ok (app.set (.array (others parameters ++ [parameter])) path) :=
    Edits.set path (by simp [path]) (by simp [path]) _
  have read : Unversioned fun app => app.arrayAt path := Unversioned.arrayAt (by simp [path])
  have changed (helm : Bool) : Edits fun app =>
      if !helm then .error (.unsupported "argocd" "scale"
        "application renders a plain directory source; change the replica count in Git instead")
      else .ok (app.set (.array (others (app.arrayAt path) ++ [parameter])) path) := by
    cases helm with
    | false => exact Edits.fail _
    | true => exact Edits.reading read listed
  exact Edits.reading unversioned_helm changed

theorem edits_pinned (id : String) (revision : Int64) :
    Edits fun app => OnCluster.pinned app id revision := by
  have refresh := Edits.set ["metadata", "annotations", refreshAnnotation] (by simp) (by simp)
    (.string "hard")
  have pin (version : String) := Edits.set ["spec", "source", "targetRevision"] (by simp)
    (by simp) (.string version)
  have read : Unversioned fun app => app.arrayAt ["status", "history"] :=
    Unversioned.arrayAt (by simp)
  have changed (history : List Json) : Edits fun app =>
      Listing.historyIndex id revision history.length >>= fun index =>
        if ((history.getD index .null).stringAt ["revision"]).isEmpty then
          .error (.malformed OnCluster.backend "rollback" id
            ("history entry " ++ Text.signedDecimal revision.toInt ++
              " carries no source revision"))
        else .ok ((app.set (.string ((history.getD index .null).stringAt ["revision"]))
          ["spec", "source", "targetRevision"]).set (.string "hard")
          ["metadata", "annotations", refreshAnnotation]) := by
    refine Edits.given _ fun index => ?_
    cases ((history.getD index .null).stringAt ["revision"]).isEmpty with
    | true => exact Edits.fail _
    | false => exact (pin _).bind refresh
  exact Edits.reading read changed

end Application

namespace Composite

theorem edits_markPackage (package : Option String) :
    Edits fun composite => .ok (markPackage composite package) := by
  rcases package with _ | package
  · exact Edits.unchanged
  · have marked := Edits.set packageNote (by simp [packageNote])
      (by simp [packageNote]) (.string package)
    change Edits fun composite =>
      .ok (if package.isEmpty then composite else composite.set (.string package) packageNote)
    cases package.isEmpty with
    | true => exact Edits.unchanged
    | false => exact marked

theorem edits_applyUpdate (update : DeploymentUpdate) (composition : Option String) :
    Edits fun composite => .ok (applyUpdate composite update composition) := by
  have values := Edits.setAll ["spec", "parameters"] (by simp) (by simp) update.values.toList
  have labels := Edits.setAll ["metadata", "labels"] (by simp) (by simp) update.labels.toFields
  have marked := edits_markPackage update.packageId
  rcases composition with _ | composition
  · exact (values.bind labels).bind marked
  · have composed := Edits.set ["spec", "compositionRef", "name"] (by simp) (by simp)
      (.string composition)
    exact ((values.bind labels).bind composed).bind marked

end Composite

namespace Flux

theorem edits_requestReconcile (now : Time.Instant) :
    Edits fun object => .ok (requestReconcile now object) :=
  Edits.set requestedAt (by simp [requestedAt]) (by simp [requestedAt]) _

theorem edits_applyUpdate (kind : FluxKind) (update : DeploymentUpdate)
    (path version : Option String) :
    Edits fun object => applyUpdate kind object update path version := by
  have labels := Edits.setAll ["metadata", "labels"] (by simp) (by simp) update.labels.toFields
  cases kind with
  | helmRelease =>
    have values := Edits.setAll ["spec", "values"] (by simp) (by simp) update.values.toList
    rcases version with _ | version
    · exact values.bind labels
    · have versioned := Edits.set ["spec", "chart", "spec", "version"] (by simp) (by simp)
        (.string version)
      exact (values.bind versioned).bind labels
  | kustomization =>
    have substituted (fields : List (String × Json)) :=
      Edits.setAll ["spec", "postBuild", "substitute"] (by simp) (by simp) fields
    have placed (path : String) := Edits.set ["spec", "path"] (by simp) (by simp) (.string path)
    unfold applyUpdate
    rcases substitutions update.values with failure | fields
    · exact Edits.fail failure
    · rcases path with _ | path
      · exact (substituted fields).bind labels
      · exact ((substituted fields).bind (placed path)).bind labels

end Flux

namespace Operation

variable (now : Time.Instant)

theorem edits_fluxScaleChange (replicas : Int32) (kind : Flux.FluxKind) :
    Edits (fluxScaleChange replicas kind) := by
  cases kind with
  | kustomization => exact Edits.fail _
  | helmRelease =>
    exact Edits.set ["spec", "values", "replicaCount"] (by simp) (by simp) _

theorem edits_fluxRollbackChange (id : String) (revision : Int64) :
    Edits (fluxRollbackChange now id revision) := by
  have read : Unversioned fun object => object.arrayAt ["status", "history"] :=
    Unversioned.arrayAt (by simp)
  have revisions : Unversioned (Flux.revisionsOf now .helmRelease) := fun base x y => by
    simp only [Flux.revisionsOf, read base x y]
  have changed (revisions : List Revision) : Edits fun object =>
      Listing.historyIndex id revision revisions.length >>= fun index =>
        .ok (object.set (.string (versionAt revisions index)) ["spec", "chart", "spec", "version"]) :=
    Edits.given _ fun index =>
      Edits.set ["spec", "chart", "spec", "version"] (by simp) (by simp) _
  exact Edits.reading revisions changed

theorem edits_fluxRewrite {home operation : String} {kind : Flux.FluxKind}
    {change : Json → Outcome Json} (edits : Edits change) :
    Edits (fluxRewrite home now operation kind change).change :=
  edits.bind (Flux.edits_requestReconcile now)

end Operation

end DeploymentGateway
