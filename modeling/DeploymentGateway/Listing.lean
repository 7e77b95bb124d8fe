import DeploymentGateway.Cluster.Basic
import DeploymentGateway.Failure
import DeploymentGateway.Model.Package
import DeploymentGateway.Text.Split
/-!
What every back end does with what it found: selecting, ordering and cutting pages, rendering
selectors, finding positions in histories and dividing logs into lines.
-/

set_option autoImplicit false

namespace DeploymentGateway.Listing

/-- The part of a list from an offset on, with at most as many items as the limit, where there is
one. -/
def paginate {α : Type} (items : List α) (limit offset : UInt64) : List α :=
  let rest := items.drop offset.toNat
  if limit = 0 then rest else rest.take limit.toNat

/-- Labels in the cluster's selector syntax, absent where there are none. -/
def labelSelector (labels : Labels) : Option String :=
  if labels.isEmpty then none
  else some <| Text.joinWith "," <| labels.toList.map fun (name, value) => name ++ "=" ++ value

/-- Every wanted label is there with the wanted value. -/
def labelsMatch (actual wanted : Labels) : Bool :=
  wanted.toList.all fun (name, value) => actual.get? name == some value

/-- The filter lets a deployment pass. Labels are looked at where the back end has not already
selected by them. -/
def admits (filter : Filter) (labelsSelected : Bool) (d : Deployment) : Bool :=
  let namespaceAdmits := match filter.namespace with
    | some wanted => wanted.isEmpty || d.namespace == wanted
    | none => true
  let statusAdmits := match filter.status with
    | some wanted => d.status == wanted
    | none => true
  namespaceAdmits && statusAdmits && (labelsSelected || labelsMatch d.labels filter.labels)

/-- Deployments are ordered by namespace and then by id. -/
def deploymentNotAfter (a b : Deployment) : Bool :=
  if a.namespace == b.namespace then a.id ≤ b.id else a.namespace ≤ b.namespace

/-- The page of a filter: what it admits, in order, cut to its limits. -/
def finishDeployments (items : List Deployment) (filter : Filter) (labelsSelected : Bool) :
    List Deployment :=
  let admitted := items.filter (admits filter labelsSelected)
  paginate (admitted.mergeSort deploymentNotAfter) filter.limit filter.offset

/-- Of neighbours with the same id only the first. -/
def dropRepeated : List Package → List Package
  | [] => []
  | [p] => [p]
  | p :: q :: rest =>
    if p.id = q.id then dropRepeated (p :: rest) else p :: dropRepeated (q :: rest)
termination_by items => items.length

/-- Packages ordered by id, each id once, cut to the limits of a filter. -/
def finishPackages (items : List Package) (filter : Filter) : List Package :=
  let sorted := items.mergeSort fun a b => a.id ≤ b.id
  paginate (dropRepeated sorted) filter.limit filter.offset

/-- A position in a history with so many entries. -/
def historyIndex (id : String) (revision : Int64) (available : Nat) : Outcome Nat :=
  let position := revision.toInt
  if 0 ≤ position ∧ position < available then .ok position.toNat
  else .error (.revisionNotFound id revision available)

/-- The logs of pods as the logs of a deployment. -/
def logsOf (deploymentId : String) (logs : List Cluster.PodLog) : DeploymentLogs where
  deploymentId := deploymentId
  entries := logs.map fun log => ⟨log.pod, log.container, Text.lines log.text⟩

end DeploymentGateway.Listing
