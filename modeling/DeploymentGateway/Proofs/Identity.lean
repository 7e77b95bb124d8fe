import DeploymentGateway.Proofs.History
import DeploymentGateway.Proofs.Identity.Cluster
import DeploymentGateway.Proofs.Identity.Release
/-!
A deployment stays the one it is when it is updated, scaled or rolled back. Every back end says on each
read anew which deployment an object or a release is, so this holds because what operations write lies
elsewhere; where it does not, the caller has set what the identity is read from, or a rollback has repeated
a revision of something else.
-/

set_option autoImplicit false

namespace DeploymentGateway

open Cluster

/-- A change of a deployment that stays in place. -/
inductive Alteration where
  | update (update : DeploymentUpdate)
  | scale (replicas : Int32)
  | rollback (revision : Int64)

namespace Alteration

/-- The operation that makes a change of the deployment with an id. -/
def program (operations : Operations) (id : String) : Alteration → Program Deployment
  | .update asked => operations.updateDeployment id asked
  | .scale replicas => operations.scaleDeployment id replicas
  | .rollback revision => operations.rollbackDeployment id revision

/-- A change does not reach what the identity of a deployment is read from. That takes something in two
back ends only: the namespace of a composite is one of the parameters that an update may set, and releases
are looked up by what their last revisions say, whatever they are filed under. -/
def Spares (settings : Settings) (memory : Memory) (id : String) (deployment : Deployment) :
    Alteration → Prop :=
  fun alteration => match settings, alteration with
  | .crossplane _, .update asked => Composite.KeepsNamespace asked deployment.namespace
  | .helm _ _, .rollback revision => deployment.id = id ∧
    ∀ target, memory.releases.repeats? deployment.namespace id revision = some target →
      target.name = id → target.namespace = deployment.namespace
  | .helm _ _, _ => deployment.id = id
  | _, _ => True

end Alteration

/-- What is told of a changed deployment, and what its id leads to from then on, is the deployment that it
led to before. -/
def Deployment.StaysAt (id : String) (operations : Time.Instant → Operations)
    (before altered : Deployment) (after : Memory) : Prop :=
  altered.Same before ∧ ∀ later, ∃ found,
    ((operations later).getDeployment id).runInMemory later after = (.ok found, after) ∧
      found.Same before

section

variable {earlier now : Time.Instant} {id : String} {memory after : Memory}
  {before altered : Deployment} {alteration : Alteration}

private theorem Application.OnCluster.staysAt {home : String}
    (named : Named memory.cluster.objects)
    (shown : (getDeployment home earlier id).runInMemory earlier memory = (.ok before, memory))
    (run : (alteration.program (operations home now) id).Runs now memory (.ok altered) after) :
    before.StaysAt id (operations home) altered after := by
  obtain ⟨checked, app, stored, rfl⟩ := getDeployment_eq_iff.mp shown
  have ensures : EnsuresAltered home id now memory.cluster.objects
      (alteration.program (operations home now) id) := by
    cases alteration with
    | update asked => exact ensures_updateDeployment named asked
    | scale replicas => exact ensures_scaleDeployment named replicas
    | rollback revision => exact ensures_rollbackDeployment named revision
  obtain ⟨object, new, found, placed, same, rfl⟩ :=
    (ensures memory _ after rfl run altered rfl).replaced
  obtain rfl : object = app := Option.some.inj (found.symm.trans stored)
  refine ⟨same_toDeployment same now earlier, fun later => ⟨toDeployment later new, ?_, ?_⟩⟩
  · exact getDeployment_eq_iff.mpr ⟨checked, new, placed, rfl⟩
  · exact same_toDeployment same later earlier

private theorem Composite.OnCluster.staysAt {kind : ResourceKind}
    (named : Named memory.cluster.objects)
    (shown : (getDeployment kind earlier id).runInMemory earlier memory = (.ok before, memory))
    (spares : alteration.Spares (.crossplane kind) memory id before)
    (run : (alteration.program (operations kind now) id).Runs now memory (.ok altered) after) :
    before.StaysAt id (operations kind) altered after := by
  obtain ⟨checked, composite, stored, rfl⟩ := getDeployment_eq_iff.mp shown
  cases alteration with
  | update asked =>
    have keeps : ∀ object, memory.cluster.objects.get? (Store.key kind "" id) = some object →
        KeepsNamespace asked (object.stringAt ["spec", "parameters", "namespace"]) := by
      intro object found
      obtain rfl : object = composite := Option.some.inj (found.symm.trans stored)
      exact spares
    obtain ⟨object, new, found, placed, same, rfl⟩ :=
      (ensures_updateDeployment named keeps memory _ after rfl run altered rfl).replaced
    obtain rfl : object = composite := Option.some.inj (found.symm.trans stored)
    refine ⟨same_toDeployment same now earlier, fun later => ⟨toDeployment later new, ?_, ?_⟩⟩
    · exact getDeployment_eq_iff.mpr ⟨checked, new, placed, rfl⟩
    · exact same_toDeployment same later earlier
  | scale replicas =>
    exact absurd rfl (ensures_scaleDeployment id replicas memory _ after rfl run altered)
  | rollback revision =>
    exact absurd rfl (ensures_rollbackDeployment id revision memory _ after rfl run altered)

private theorem Flux.OnCluster.staysAt {home : String} (named : Named memory.cluster.objects)
    (shown : (getDeployment home earlier id).runInMemory earlier memory = (.ok before, memory))
    (run : (alteration.program (operations home now) id).Runs now memory (.ok altered) after) :
    before.StaysAt id (operations home) altered after := by
  obtain ⟨kind, object, addressed, rfl⟩ := addressed_of_getDeployment shown
  have ensures : EnsuresAltered home id now memory.cluster.objects
      (alteration.program (operations home now) id) := by
    cases alteration with
    | update asked => exact ensures_updateDeployment named asked
    | scale replicas => exact ensures_scaleDeployment named replicas
    | rollback revision => exact ensures_rollbackDeployment named revision
  obtain ⟨kind', object', new, found, placed, same, rfl⟩ :=
    (ensures memory _ after rfl run altered rfl).addressed named
  obtain ⟨rfl, rfl⟩ := addressed.unique found
  refine ⟨same_toDeployment same _ now earlier, fun later => ⟨toDeployment later kind' new, ?_, ?_⟩⟩
  · exact getDeployment_of_addressed placed
  · exact same_toDeployment same _ later earlier

private theorem Release.OnManager.staysAt {binary : String} {context : Option String}
    (shown : (getDeployment earlier id).runInMemory earlier memory = (.ok before, memory))
    (spares : alteration.Spares (.helm binary context) memory id before)
    (run : (alteration.program (operations now) id).Runs now memory (.ok altered) after) :
    before.StaysAt id operations altered after := by
  obtain ⟨checked, home, last, listed, latest, rfl⟩ := namespaces_of_getDeployment shown
  have owned : last.name = id := by
    cases alteration with
    | update asked => exact spares
    | scale replicas => exact spares
    | rollback revision => exact spares.1
  obtain ⟨at_home, -⟩ := Store.unique_of_namespaces listed latest owned
  have own : OwnsName memory.releases id := by
    intro home' last' listed' latest'
    obtain rfl : home' = home := by simpa [listed] using listed'.symm
    obtain rfl : last' = last := Option.some.inj (latest'.symm.trans latest)
    exact owned
  have ensures : EnsuresContinued now memory.releases id
      (alteration.program (operations now) id) := by
    cases alteration with
    | update asked => exact ensures_updateDeployment own asked
    | scale replicas => exact ensures_scaleDeployment own replicas
    | rollback revision =>
      refine ensures_rollbackDeployment own fun home' target listed' repeated named => ?_
      obtain rfl : home' = home := by simpa [listed] using listed'.symm
      rw [← at_home] at repeated
      exact (spares.2 target repeated named).trans at_home
  obtain ⟨home', last', next, continues, rfl⟩ := ensures memory _ after rfl run altered rfl
  obtain rfl : home' = home := by simpa [listed] using continues.listed.symm
  obtain rfl : last' = last := Option.some.inj (continues.latest.symm.trans latest)
  have same (later : Time.Instant) :
      (toDeployment later next).Same (toDeployment earlier last') :=
    ⟨continues.name, continues.name, continues.namespace⟩
  refine ⟨same now, fun later => ⟨_, ?_, same later⟩⟩
  exact getDeployment_of_namespaces checked continues.listed_after continues.latest_after

/-- Whatever the objects in the cluster and the releases are, a deployment that is updated, scaled or
rolled back stays the one it is, and its id leads to it. -/
theorem same_of_altered (settings : Settings) (inMemory : settings.kind ≠ .argocdRest)
    (reachable : memory.cluster.Reachable)
    (shown : ((settings.operations earlier).getDeployment id).runInMemory earlier memory =
      (.ok before, memory))
    (spares : alteration.Spares settings memory id before)
    (run : (alteration.program (settings.operations now) id).Runs now memory (.ok altered) after) :
    altered.Same before ∧ ∀ later, ∃ found,
      ((settings.operations later).getDeployment id).runInMemory later after = (.ok found, after) ∧
        found.Same before := by
  have named := reachable.named
  cases settings with
  | argocd home => exact Application.OnCluster.staysAt named shown run
  | argocdRest address token home seconds => exact absurd rfl inMemory
  | crossplane kind => exact Composite.OnCluster.staysAt named shown spares run
  | flux home => exact Flux.OnCluster.staysAt named shown run
  | helm binary context => exact Release.OnManager.staysAt shown spares run

end

/-- A release that is rolled back to its first chart is still the one it was. -/
theorem same_of_altered_rolledBack :
    ∃ before altered after found,
      (Release.OnManager.getDeployment ⟨0, 0⟩ "web").runInMemory ⟨0, 0⟩ (holding upgradedRelease) =
        (.ok before, holding upgradedRelease) ∧
      (Release.OnManager.rollbackDeployment ⟨1, 0⟩ "web" 0).Runs ⟨1, 0⟩ (holding upgradedRelease)
        (.ok altered) after ∧
      altered.Same before ∧
      (Release.OnManager.getDeployment ⟨2, 0⟩ "web").runInMemory ⟨2, 0⟩ after =
        (.ok found, after) ∧ found.Same before := by
  have shown : (Release.OnManager.getDeployment ⟨0, 0⟩ "web").runInMemory ⟨0, 0⟩
      (holding upgradedRelease) = (.ok _, holding upgradedRelease) := rfl
  have spares : (Alteration.rollback 0).Spares (.helm "helm" none) (holding upgradedRelease) "web"
      (Release.toDeployment ⟨0, 0⟩ (webRevision "prod" 2 "caddy" "3.0.0" .deployed)) := by
    refine ⟨rfl, fun target repeated _ => ?_⟩
    cases repeated
    rfl
  have run : ((Alteration.rollback 0).program ((Settings.helm "helm" none).operations ⟨1, 0⟩)
      "web").Runs ⟨1, 0⟩ (holding upgradedRelease) (.ok _) _ :=
    Program.runs_runInMemory _ (holding upgradedRelease)
  obtain ⟨same, later⟩ := same_of_altered (.helm "helm" none) nofun .empty shown spares run
  obtain ⟨found, leads, same'⟩ := later ⟨2, 0⟩
  exact ⟨_, _, _, found, shown, run, same, leads, same'⟩

/-- In some state a change of the deployment "web" succeeds and makes it another one, or one that is not
found any more. -/
def Alteration.Moves (settings : Settings) (alteration : Alteration) : Prop :=
  ∃ (now : Time.Instant) (memory after : Memory) (before altered : Deployment),
    memory.cluster.Reachable ∧
    ((settings.operations now).getDeployment "web").runInMemory now memory = (.ok before, memory) ∧
    (alteration.program (settings.operations now) "web").Runs now memory (.ok altered) after ∧
    ¬ before.StaysAt "web" settings.operations altered after

/-- Histories whose last revisions name other releases than the ones they are kept under: to look up "web"
leads to "api", and to look that up leads to "db". -/
def crossedReleases : Release.Store :=
  let kept (name place : String) : Release.ReleaseRevision :=
    { webRevision place 1 "nginx" "1.0.0" .deployed with name }
  ((Release.Store.empty.seed [kept "web" "prod", kept "api" "prod"]).seed
    [kept "web" "test", kept "web" "prod"]).seed [kept "api" "prod", kept "db" "ops"]

/-- A kind of composites, and one of them. -/
def webKind : ResourceKind :=
  ⟨"example.org", "v1", "XWeb", "xwebs", false⟩

def webComposite : Json :=
  .ofPairs [
    ("metadata", .ofPairs [("name", .string "web")]),
    ("spec", .ofPairs [("parameters", .ofPairs [("namespace", .string "prod")])])]

private theorem moves_of_changed {settings : Settings} {alteration : Alteration} (memory : Memory)
    (reachable : memory.cluster.Reachable) {before altered : Deployment} {after : Memory}
    (shown : ((settings.operations ⟨0, 0⟩).getDeployment "web").runInMemory ⟨0, 0⟩ memory =
      (.ok before, memory))
    (run : (alteration.program (settings.operations ⟨0, 0⟩) "web").runInMemory ⟨0, 0⟩ memory =
      (.ok altered, after))
    (changed : ¬ before.StaysAt "web" settings.operations altered after) :
    alteration.Moves settings := by
  exact ⟨⟨0, 0⟩, memory, after, before, altered, reachable, shown, Program.runs_of_runInMemory run,
    changed⟩

/-- A release is lost from its id by a rollback to a revision filed elsewhere, and becomes another one by
an update where it is looked up crosswise; a composite moves with the values of an update. -/
theorem moves_where_identity_is_written :
    (Alteration.rollback 1).Moves (.helm "helm" none) ∧
    (Alteration.update ⟨none, .empty, .empty, .ofList [("chart", .string "stable/nginx")]⟩).Moves
      (.helm "helm" none) ∧
    (Alteration.update ⟨none, .ofList [("namespace", .string "staging")], .empty, .empty⟩).Moves
      (.crossplane webKind) := by
  refine ⟨?_, ?_, ?_⟩
  · refine moves_of_changed (holding mixedRelease) .empty rfl rfl fun stays => ?_
    obtain ⟨found, leads, -⟩ := stays.2 ⟨0, 0⟩
    cases leads
  · refine moves_of_changed ⟨.empty, crossedReleases⟩ .empty rfl rfl fun stays => ?_
    exact absurd stays.1.id (by decide +kernel)
  · refine moves_of_changed ⟨Store.empty.seed webKind webComposite, .empty⟩ (.seed _ _ .empty) rfl rfl
      fun stays => ?_
    exact absurd stays.1.namespace (by decide +kernel)

end DeploymentGateway
