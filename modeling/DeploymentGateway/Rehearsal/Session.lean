import DeploymentGateway.Http.Plan
import DeploymentGateway.Rehearsal.Stage
/-!
Sessions: a whole gateway on a stage. Its adapters are operated one at a time, directly or through
requests, and the objects and releases that they leave behind can be looked at in between.
-/

set_option autoImplicit false

namespace DeploymentGateway.Rehearsal

open Cluster Http

/-- An adapter with its way to the back ends. -/
structure Member where
  adapter : Adapter
  access : Access

/-- A session. With a time limit, the response to a request that never ends is that of an operation
whose caller gave up. -/
structure Session where
  members : List Member
  hasTimeLimit : Bool
  stage : Stage

/-- The kinds of objects that adapters work with, without those of the composites of a platform. -/
def wellKnownKinds : List ResourceKind := [
  Application.kind, Release.recordKind, Composite.configurationKind, Flux.gitRepositoryKind,
  Flux.helmReleaseKind, Flux.helmRepositoryKind, Flux.kustomizationKind]

/-- The kind of composites where no other is named. -/
def exampleComposite : ResourceKind :=
  ⟨"platform.example.org", "v1alpha1", "XApp", "xapps", false⟩

/-- The kinds that a session shows the objects of. -/
def knownKinds : List ResourceKind :=
  wellKnownKinds ++ [exampleComposite]

/-- The kind with a plural. One that is not known is of the whole cluster, and has nothing else. -/
def kindOfPlural (plural : String) : ResourceKind :=
  (knownKinds.find? fun kind => kind.plural == plural).getD ⟨"", "", "", plural, false⟩

/-- The back ends of an adapter of a configuration: the cluster and servers are out of reach, and its
release manager is a program. -/
def Access.ofAdapter (adapter : Adapter) : Access where
  owner := adapter.name
  isRemote := true
  program := match adapter.connection .releases with
    | some (.program binary context) => some ⟨binary, context⟩
    | _ => none
  connector client := match adapter.connection client with
    | some (.program binary context) => .asksProgram ⟨binary, context⟩
    | some (.server baseUrl _ _ _) => .asksServer baseUrl
    | _ => .ready

/-- The back ends of an adapter that shares them with others. Its clients are there at once, unless their
setup is to fail; the cluster's client of a release manager has a setup of its own. -/
def Access.withFailures (shared : Access) (adapter : Adapter) (own cluster : Option String) :
    Access :=
  let connector (message : Option String) : Connector :=
    match message with
    | some message => .failing adapter.kind.word message
    | none => .ready
  { shared with
    owner := adapter.name
    connector := fun client => match adapter.kind, client with
      | .helm, .cluster => connector cluster
      | _, _ => connector own }

namespace Session

/-- The registry of the adapters. -/
def registry (session : Session) : Registry :=
  .ofAdapters (session.members.map fun member => member.adapter)

/-- The adapter with a name, with its way to the back ends. Of two with one name the later stays. -/
def member? (session : Session) (name : String) : Option Member :=
  session.members.reverse.find? fun member => member.adapter.name == name

/-- Run an operation of an adapter. -/
def operate {α : Type} (session : Session) (member : Member) (cancelled : Bool)
    (operation : Operations → Program α) : Option (Outcome α) × Session :=
  let program := operation (member.adapter.operations session.stage.now)
  let (outcome, stage) := session.stage.perform member.access cancelled program
  (outcome, { session with stage })

/-- The response to a request, if it ever ends. -/
def respond (session : Session) (request : Request) : Option Response × Session :=
  match Plan.of session.registry session.stage.now request with
  | .respond response => (some (response.sentFor request), session)
  | .operate adapter program =>
    match session.member? adapter.name with
    | none => (none, session)
    | some member =>
      let (outcome, stage) := session.stage.perform member.access false program
      let response := match outcome with
        | some outcome => some (Response.ofOutcome outcome)
        | none => if session.hasTimeLimit then some (.ofFailure .cancelled) else none
      (response.map (Response.sentFor request), { session with stage })

/-- All objects of the known kinds, by the plural of their kind. To find them is a call for each
kind. -/
def objects (session : Session) : List (String × List Json) × Session :=
  let listed := knownKinds.map fun kind =>
    (kind.plural, session.stage.memory.cluster.list kind none none)
  let stage := session.stage
  (listed.filter fun entry => !entry.2.isEmpty,
    { session with
      stage := { stage with clusterCalls := stage.clusterCalls + knownKinds.length } })

end Session

end DeploymentGateway.Rehearsal
