import DeploymentGateway.Cluster.Exchange
import DeploymentGateway.Memory
import DeploymentGateway.Rehearsal.Fault
import DeploymentGateway.Release.CommandLine
/-!
Rehearsals: programs run against back ends that follow a script. Behind the cluster and the release
manager stand the ones in memory, with faults in front of them, or the program of the release manager
with results told in advance. Servers are out of reach. Whatever reaches a back end is written down.
-/

set_option autoImplicit false

namespace DeploymentGateway.Rehearsal

open Cluster Release

/-- How a client of an adapter is set up. -/
inductive Connector where
  /-- It is there at once. -/
  | ready
  /-- Its setup fails with a text. -/
  | failing (backend message : String)
  /-- A server at an address is asked for its version. -/
  | asksServer (address : String)
  /-- The program of the release manager is asked for its version. -/
  | asksProgram (program : CommandLine)

/-- How the programs of one adapter get at their back ends. Clients are shared by all programs with
the same owner. -/
structure Access where
  owner : String
  isRemote : Bool
  program : Option CommandLine
  connector : Client → Connector

/-- Something that reached a back end: a call, or a setup that failed. -/
inductive Entry where
  | call (c : Call)
  | setup (backend : String)

/-- A client: its owner and which of the owner's clients it is. -/
structure ClientKey where
  owner : String
  client : Client

/-- The word for a client. -/
def clientWord : Client → String
  | .cluster => "cluster"
  | .releases => "releases"
  | .server => "server"

instance : OrderedKey ClientKey where
  parts key := [key.owner, clientWord key.client]
  parts_injective a b h := by
    obtain ⟨ownerA, clientA⟩ := a
    obtain ⟨ownerB, clientB⟩ := b
    cases clientA <;> cases clientB <;> simp_all [clientWord]

/-- The state of a rehearsal: the back ends in memory with the number of calls they have answered and
the last requests they got, the faults and results still to come, the setups that are over, and what
has been written down since the last look. -/
structure Stage where
  now : Time.Instant
  memory : Memory
  clusterCalls : Nat
  releaseCalls : Nat
  lastInstall : Option InstallRequest
  lastUpgrade : Option UpgradeRequest
  faults : List Fault
  results : List RunResult
  clients : SortedMap ClientKey (Outcome Unit)
  entries : List Entry
  runs : List (List String)

namespace Stage

/-- The beginning of a rehearsal that plays at an instant. -/
def initial (now : Time.Instant) : Stage :=
  ⟨now, .empty, 0, 0, none, none, [], [], .empty, [], []⟩

/-- Write an entry down. -/
def note (stage : Stage) (entry : Entry) : Stage :=
  { stage with entries := stage.entries ++ [entry] }

/-- What has been written down, and the stage with a clean page. -/
def takeNotes (stage : Stage) : List Entry × List (List String) × Stage :=
  (stage.entries, stage.runs, { stage with entries := [], runs := [] })

/-- Add results for the runs to come. -/
def addResults (stage : Stage) (results : List RunResult) : Stage :=
  { stage with results := stage.results ++ results }

/-- Add a fault behind the others. -/
def addFault (stage : Stage) (fault : Fault) : Stage :=
  { stage with faults := stage.faults ++ [fault] }

/-- The only program that there is. -/
def knownProgram : String := "helm"

/-- The result of a run for which none was told in advance. -/
def untoldResult : RunResult :=
  ⟨99, "", "no canned result"⟩

/-- Run a command of the release manager's program, where that can be started. -/
def runCommand {α : Type} (stage : Stage) (program : CommandLine) (command : Command α) :
    Except ReleaseError α × Stage :=
  if program.binary != knownProgram || !program.canRun command then
    (.error (.unavailable ""), stage)
  else
    let stage := { stage with runs := stage.runs ++ [program.arguments command] }
    match stage.results with
    | [] => (command.outcome untoldResult, stage)
    | result :: rest => (command.outcome result, { stage with results := rest })

/-- Set a client up for the first time. -/
def setUp (stage : Stage) : Connector → Outcome Unit × Stage
  | .ready => (.ok (), stage)
  | .failing backend message =>
    (.error (.malformed backend "connect" "cluster" message), stage.note (.setup backend))
  | .asksServer address =>
    (.error (.failed "argocd-rest" "connect" address (.server .unreachable)), stage)
  | .asksProgram program =>
    match stage.runCommand program Command.version with
    | (.ok _, stage) => (.ok (), stage)
    | (.error error, stage) => (.error (.failed "helm" "connect" "helm" (.release error)), stage)

/-- Get a client. It is set up once, and the outcome of that stays. -/
def connect (stage : Stage) (access : Access) (client : Client) : Outcome Unit × Stage :=
  let key : ClientKey := ⟨access.owner, client⟩
  match stage.clients.get? key with
  | some outcome => (outcome, stage)
  | none =>
    let (outcome, stage) := stage.setUp (access.connector client)
    (outcome, { stage with clients := stage.clients.insert key outcome })

/-- The stage after a call has reached a back end in memory. -/
def count (stage : Stage) (c : Call) : Stage :=
  match c with
  | .install request =>
    { stage with releaseCalls := stage.releaseCalls + 1, lastInstall := some request }
  | .upgrade request =>
    { stage with releaseCalls := stage.releaseCalls + 1, lastUpgrade := some request }
  | .uninstall _ _ | .rollback _ _ _ | .releaseStatus _ _ | .releaseList _ _ | .releaseHistory _ _
  | .releaseVersion => { stage with releaseCalls := stage.releaseCalls + 1 }
  | .checkpoint | .connect _ | .request _ => stage
  | _ => { stage with clusterCalls := stage.clusterCalls + 1 }

/-- The reply of the back ends in memory, without faults. -/
def answerFromMemory (stage : Stage) (c : Call) : c.Reply × Stage :=
  let (reply, memory) := stage.memory.answer stage.now c
  (reply, { stage.count c with memory })

/-- The reply to a call of a back end in memory, if it ever comes. The call is written down; then a
fault may strike it, and otherwise memory answers. -/
def answerInMemory (stage : Stage) (c : Call) : Option c.Reply × Stage :=
  let stage := stage.note (.call c)
  match c.mark? with
  | none => (none, stage)
  | some (word, target) =>
    match Fault.strike? word target stage.faults with
    | (some fault, faults) => (fault.reply? c, { stage with faults })
    | (none, faults) =>
      let (reply, stage) := { stage with faults }.answerFromMemory c
      (some reply, stage)

/-- The reply to an exchange with a cluster out of reach: what cannot be sent at all is refused for
that. -/
def unanswered {α : Type} : Except ClusterError (Exchange α) → Except ClusterError α
  | .error refusal => .error refusal
  | .ok _ => .error .api

/-- The reply of back ends out of reach. -/
def answerRemotely : (c : Call) → c.Reply
  | .checkpoint => .ok ()
  | .connect _ => .ok ()
  | .get kind «namespace» name => unanswered (.ok (Exchange.get kind «namespace» name))
  | .list kind «namespace» selector => unanswered (.ok (Exchange.list kind «namespace» selector))
  | .create kind «namespace» object => unanswered (Exchange.create kind «namespace» object)
  | .update kind «namespace» object => unanswered (Exchange.update kind «namespace» object)
  | .delete kind «namespace» name => unanswered (.ok (Exchange.delete kind «namespace» name))
  | .podLogs _ _ _ _ => .error .api
  | .ping => .error .api
  | .install _ => .error (.unavailable "")
  | .upgrade _ => .error (.unavailable "")
  | .uninstall _ _ => .error (.unavailable "")
  | .rollback _ _ _ => .error (.unavailable "")
  | .releaseStatus _ _ => .error (.unavailable "")
  | .releaseList _ _ => .error (.unavailable "")
  | .releaseHistory _ _ => .error (.unavailable "")
  | .releaseVersion => .error (.unavailable "")
  | .request _ => .error .unreachable

/-- The reply of the release manager's program to a call of the release manager. -/
def answerByProgram? (stage : Stage) (program : CommandLine) :
    (c : Call) → Option (c.Reply × Stage)
  | .install request => some (stage.runCommand program (Command.install request))
  | .upgrade request => some (stage.runCommand program (Command.upgrade request))
  | .uninstall «namespace» name =>
    some (stage.runCommand program (Command.uninstall «namespace» name))
  | .rollback «namespace» name revision =>
    some (stage.runCommand program (Command.rollback «namespace» name revision))
  | .releaseStatus «namespace» name =>
    some (stage.runCommand program (Command.status «namespace» name))
  | .releaseList «namespace» selector =>
    some (stage.runCommand program (Command.list «namespace» selector))
  | .releaseHistory «namespace» name =>
    some (stage.runCommand program (Command.history «namespace» name))
  | .releaseVersion => some (stage.runCommand program Command.version)
  | _ => none

/-- The reply to a call of a release manager. -/
def answerReleases (stage : Stage) (access : Access) (c : Call) : Option c.Reply × Stage :=
  match access.program.bind fun program => stage.answerByProgram? program c with
  | some (reply, stage) => (some reply, stage)
  | none => stage.answerInMemory c

/-- The reply to a call of a cluster. -/
def answerCluster (stage : Stage) (access : Access) (c : Call) : Option c.Reply × Stage :=
  if access.isRemote then (some (answerRemotely c), stage) else stage.answerInMemory c

/-- The reply to a call of a program whose caller may have given up beforehand. -/
def answer (access : Access) (cancelled : Bool) (c : Call) (stage : Stage) :
    Option c.Reply × Stage :=
  match c with
  | .checkpoint => (some (if cancelled then .error .cancelled else .ok ()), stage)
  | .connect client =>
    if cancelled then (some (.error .cancelled), stage)
    else
      let (outcome, stage) := stage.connect access client
      (some outcome, stage)
  | .request _ => (some (.error .unreachable), stage)
  | .install _ | .upgrade _ | .uninstall _ _ | .rollback _ _ _ | .releaseStatus _ _
  | .releaseList _ _ | .releaseHistory _ _ | .releaseVersion => stage.answerReleases access _
  | _ => stage.answerCluster access _

/-- Run a program. Without an outcome it never ends. -/
def perform {α : Type} (stage : Stage) (access : Access) (cancelled : Bool)
    (program : Program α) : Option (Outcome α) × Stage :=
  program.run (answer access cancelled) stage

end Stage

end DeploymentGateway.Rehearsal
