import DeploymentGateway.Release.Basic
import DeploymentGateway.Text.Split
/-!
A release manager in memory: for every release the list of its revisions, oldest first.
-/

set_option autoImplicit false

namespace DeploymentGateway.Release

/-- A release: its namespace and its name. -/
structure ReleaseKey where
  «namespace» : String
  name : String

instance : OrderedKey ReleaseKey where
  parts key := [key.namespace, key.name]
  parts_injective a b h := by
    cases a
    cases b
    simp_all

/-- The revisions of every release. -/
structure Store where
  releases : SortedMap ReleaseKey (List ReleaseRevision)

namespace Store

/-- A manager without releases. -/
def empty : Store :=
  ⟨.empty⟩

/-- Put a history in place, under the namespace and name of its first revision. -/
def seed (store : Store) (history : List ReleaseRevision) : Store :=
  match history with
  | [] => store
  | first :: _ => ⟨store.releases.insert ⟨first.namespace, first.name⟩ history⟩

/-- The revisions of a release. -/
def history? (store : Store) («namespace» name : String) : Option (List ReleaseRevision) :=
  store.releases.get? ⟨«namespace», name⟩

/-- The last revision of a release. -/
def latest? (store : Store) («namespace» name : String) : Option ReleaseRevision :=
  (store.history? «namespace» name).bind List.getLast?

/-- A revision that is no longer the deployed one. -/
def supersede (revision : ReleaseRevision) : ReleaseRevision :=
  if revision.status = .deployed then { revision with status := .superseded } else revision

/-- Add a revision to its release: it is numbered by its place, and those before it are superseded. -/
def push (store : Store) (next : ReleaseRevision) : ReleaseRevision × Store :=
  let before := ((store.history? next.namespace next.name).getD []).map supersede
  let next := { next with revision := Int64.ofNat (before.length + 1) }
  (next, ⟨store.releases.insert ⟨next.namespace, next.name⟩ (before ++ [next])⟩)

/-- The version of a chart where none was asked for. -/
def defaultChartVersion : String := "1.0.0"

/-- The name of the chart that a reference points at. -/
def chartName (reference : String) : String :=
  Text.afterLast '/' reference

/-- Install a release under a name that is not in use. -/
def install (store : Store) (now : Time.Instant) (request : InstallRequest) :
    Except ReleaseError ReleaseRevision × Store :=
  match store.latest? request.namespace request.name with
  | some _ =>
    (.error (.commandFailed "install"
      ("cannot re-use a name that is still in use: " ++ request.name)), store)
  | none =>
    let (revision, store) := store.push {
      name := request.name
      «namespace» := request.namespace
      revision := 1
      chart := chartName request.chart
      chartVersion := request.version.getD defaultChartVersion
      appVersion := ""
      status := .deployed
      firstDeployed := some now
      lastDeployed := some now
      description := "revision 1"
      config := request.values }
    (.ok revision, store)

/-- Make a new revision of a release from its last one. -/
def upgrade (store : Store) (now : Time.Instant) (request : UpgradeRequest) :
    Except ReleaseError ReleaseRevision × Store :=
  match store.latest? request.namespace request.name with
  | none => (.error (.notFound request.name), store)
  | some current =>
    let kept := if request.reuseValues then current.config else .empty
    let (revision, store) := store.push { current with
      chart := chartName request.chart
      chartVersion := request.version.getD current.chartVersion
      config := kept.union request.values
      status := .deployed
      lastDeployed := some now
      description := "Upgrade complete" }
    (.ok revision, store)

/-- Remove a release with all its revisions. -/
def uninstall (store : Store) («namespace» name : String) : Except ReleaseError Unit × Store :=
  if store.releases.contains ⟨«namespace», name⟩ then
    (.ok (), ⟨store.releases.erase ⟨«namespace», name⟩⟩)
  else (.error (.notFound name), store)

/-- Make a new revision that repeats an earlier one. -/
def rollback (store : Store) («namespace» name : String) (revision : Int64) :
    Except ReleaseError Unit × Store :=
  let number := Text.signedDecimal revision.toInt
  let history := (store.history? «namespace» name).getD []
  match history.find? fun entry => entry.revision == revision with
  | none => (.error (.notFound (name ++ " revision " ++ number)), store)
  | some target =>
    let (_, store) := store.push
      { target with status := .deployed, description := "Rollback to " ++ number }
    (.ok (), store)

/-- The last revision of a release, or the failure to find it. -/
def status (store : Store) («namespace» name : String) : Except ReleaseError ReleaseRevision :=
  match store.latest? «namespace» name with
  | some revision => .ok revision
  | none => .error (.notFound name)

/-- The last revision of every release, of one namespace or of all. -/
def list (store : Store) («namespace» : Option String) : List ReleaseRevision :=
  store.releases.toList.filterMap fun (key, history) =>
    match «namespace» with
    | some wanted => if key.namespace == wanted then history.getLast? else none
    | none => history.getLast?

/-- All revisions of a release, or the failure to find it. -/
def history (store : Store) («namespace» name : String) :
    Except ReleaseError (List ReleaseRevision) :=
  match store.history? «namespace» name with
  | some history => .ok history
  | none => .error (.notFound name)

/-- The version that the manager answers with. -/
def version : String := "v3.14.0"

end Store

end DeploymentGateway.Release
