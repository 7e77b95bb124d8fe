import DeploymentGateway.Failure
import DeploymentGateway.Release.Basic
import DeploymentGateway.Server.Request
/-!
Operations as programs. An operation does nothing itself: it is a finite tree of calls to the world
outside, each with one continuation for every reply. So what an operation does under faults, among
other operations, or when its caller gives up half way is decided by whoever answers the calls.
-/

set_option autoImplicit false

namespace DeploymentGateway

open Cluster Release

/-- The clients that operations use. A client is set up when it is first needed. -/
inductive Client where
  | cluster
  | releases
  | server
  deriving DecidableEq

/-- The calls to the world outside. -/
inductive Call where
  /-- Ask whether the caller still waits. -/
  | checkpoint
  /-- Ask for a client, which also asks whether the caller still waits. -/
  | connect (client : Client)
  | get (kind : ResourceKind) («namespace» name : String)
  | list (kind : ResourceKind) («namespace» selector : Option String)
  | create (kind : ResourceKind) («namespace» : String) (object : Json)
  | update (kind : ResourceKind) («namespace» : String) (object : Json)
  | delete (kind : ResourceKind) («namespace» name : String)
  | podLogs («namespace» selector : String) (container : Option String) (tailLines : Option Int64)
  | ping
  | install (request : InstallRequest)
  | upgrade (request : UpgradeRequest)
  | uninstall («namespace» name : String)
  | rollback («namespace» name : String) (revision : Int64)
  | releaseStatus («namespace» name : String)
  | releaseList («namespace» selector : Option String)
  | releaseHistory («namespace» name : String)
  | releaseVersion
  | request (request : Server.Request)

namespace Call

/-- What a call is answered with. -/
abbrev Reply : Call → Type
  | checkpoint => Outcome Unit
  | connect _ => Outcome Unit
  | get _ _ _ => Except ClusterError Json
  | list _ _ _ => Except ClusterError (List Json)
  | create _ _ _ => Except ClusterError Json
  | update _ _ _ => Except ClusterError Json
  | delete _ _ _ => Except ClusterError Unit
  | podLogs _ _ _ _ => Except ClusterError (List PodLog)
  | ping => Except ClusterError Unit
  | install _ => Except ReleaseError ReleaseRevision
  | upgrade _ => Except ReleaseError ReleaseRevision
  | uninstall _ _ => Except ReleaseError Unit
  | rollback _ _ _ => Except ReleaseError Unit
  | releaseStatus _ _ => Except ReleaseError ReleaseRevision
  | releaseList _ _ => Except ReleaseError (List ReleaseRevision)
  | releaseHistory _ _ => Except ReleaseError (List ReleaseRevision)
  | releaseVersion => Except ReleaseError String
  | request _ => Except Server.ServerError Json

/-- A call that reaches a back end, rather than the gateway's own bookkeeping. -/
def reachesBackend : Call → Bool
  | checkpoint => false
  | connect _ => false
  | _ => true

end Call

/-- A program that ends in an outcome after finitely many calls. -/
inductive Program (α : Type) where
  | done (outcome : Outcome α)
  | call (c : Call) (next : c.Reply → Program α)

namespace Program

variable {α β : Type}

/-- A program that makes no call. -/
def ofOutcome (outcome : Outcome α) : Program α :=
  done outcome

/-- A program that fails. -/
def fail (failure : Failure) : Program α :=
  done (.error failure)

/-- Go on with the result of a program, if it has one. -/
def bind : Program α → (α → Program β) → Program β
  | done (.ok a), f => f a
  | done (.error failure), _ => done (.error failure)
  | call c next, f => call c fun reply => (next reply).bind f

instance : Monad Program where
  pure a := done (.ok a)
  bind := bind

/-- A program whose failure is a result like any other. -/
def attempt : Program α → Program (Outcome α)
  | done outcome => done (.ok outcome)
  | call c next => call c fun reply => (next reply).attempt

/-- One call, with its reply for the result. -/
def perform (c : Call) : Program c.Reply :=
  call c fun reply => done (.ok reply)

/-- Fail if the caller has given up. -/
def checkpoint : Program Unit :=
  call .checkpoint done

/-- Make sure that a client is there. -/
def connect (client : Client) : Program Unit :=
  call (.connect client) done

/-- Read an object of the cluster. -/
def get (kind : ResourceKind) («namespace» name : String) : Program (Except ClusterError Json) :=
  perform (.get kind «namespace» name)

/-- List objects of the cluster, in one namespace or in all. -/
def list (kind : ResourceKind) («namespace» selector : Option String) :
    Program (Except ClusterError (List Json)) :=
  perform (.list kind «namespace» selector)

/-- Make an object of the cluster. -/
def create (kind : ResourceKind) («namespace» : String) (object : Json) :
    Program (Except ClusterError Json) :=
  perform (.create kind «namespace» object)

/-- Replace an object of the cluster. -/
def update (kind : ResourceKind) («namespace» : String) (object : Json) :
    Program (Except ClusterError Json) :=
  perform (.update kind «namespace» object)

/-- Remove an object of the cluster. -/
def delete (kind : ResourceKind) («namespace» name : String) : Program (Except ClusterError Unit) :=
  perform (.delete kind «namespace» name)

/-- Read the logs of pods. -/
def podLogs («namespace» selector : String) (options : LogOptions) :
    Program (Except ClusterError (List PodLog)) :=
  perform (.podLogs «namespace» selector options.container options.tailLines)

/-- Ask the cluster for a sign of life. -/
def ping : Program (Except ClusterError Unit) :=
  perform .ping

/-- Install a release. -/
def install (request : InstallRequest) : Program (Except ReleaseError ReleaseRevision) :=
  perform (.install request)

/-- Make a further revision of a release. -/
def upgrade (request : UpgradeRequest) : Program (Except ReleaseError ReleaseRevision) :=
  perform (.upgrade request)

/-- Remove a release. -/
def uninstall («namespace» name : String) : Program (Except ReleaseError Unit) :=
  perform (.uninstall «namespace» name)

/-- Return a release to an earlier revision. -/
def rollback («namespace» name : String) (revision : Int64) : Program (Except ReleaseError Unit) :=
  perform (.rollback «namespace» name revision)

/-- Read the last revision of a release. -/
def releaseStatus («namespace» name : String) : Program (Except ReleaseError ReleaseRevision) :=
  perform (.releaseStatus «namespace» name)

/-- List releases, in one namespace or in all. -/
def releaseList («namespace» selector : Option String) :
    Program (Except ReleaseError (List ReleaseRevision)) :=
  perform (.releaseList «namespace» selector)

/-- Read all revisions of a release. -/
def releaseHistory («namespace» name : String) :
    Program (Except ReleaseError (List ReleaseRevision)) :=
  perform (.releaseHistory «namespace» name)

/-- Ask the release manager for its version. -/
def releaseVersion : Program (Except ReleaseError String) :=
  perform .releaseVersion

/-- Send a request to an application server. -/
def request (request : Server.Request) : Program (Except Server.ServerError Json) :=
  perform (.request request)

/-- Use a reply of a back end, or fail with its error as told. -/
def expect {ε : Type} (reply : Except ε α) (failure : ε → Failure) : Program α :=
  match reply with
  | .ok a => done (.ok a)
  | .error error => done (.error (failure error))

/-- Let a handler with a state answer the calls of a program, as long as it does answer. Without an
answer the program never ends. -/
def run {σ : Type} (answer : (c : Call) → σ → Option c.Reply × σ) :
    Program α → σ → Option (Outcome α) × σ
  | done outcome, s => (some outcome, s)
  | call c next, s =>
    match answer c s with
    | (some reply, s) => run answer (next reply) s
    | (none, s) => (none, s)

end Program

/-- The failure of a cluster call on the resource of a deployment. -/
def deploymentFailure (backend operation id : String) (error : ClusterError) : Failure :=
  match error with
  | .notFound _ _ => .deploymentNotFound id
  | error => .failed backend operation id (.cluster error)

/-- The failure of a cluster call on the resource of a package. -/
def packageFailure (backend operation id : String) (error : ClusterError) : Failure :=
  match error with
  | .notFound _ _ => .packageNotFound id
  | error => .failed backend operation id (.cluster error)

end DeploymentGateway
