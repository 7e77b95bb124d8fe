import DeploymentGateway.Program
/-!
Faults: calls that are to fail, or never to end, in a rehearsal. A fault names a call and what it is
made on, lets some calls of that sort pass, and then strikes a number of times.
-/

set_option autoImplicit false

namespace DeploymentGateway

open Cluster Release

/-- The word for a call and the word for what it is made on, where a back end is called that faults can
strike. -/
def Call.mark? : Call → Option (String × String)
  | .get kind _ _ => some ("get", kind.plural)
  | .list kind _ _ => some ("list", kind.plural)
  | .create kind _ _ => some ("create", kind.plural)
  | .update kind _ _ => some ("update", kind.plural)
  | .delete kind _ _ => some ("delete", kind.plural)
  | .podLogs _ _ _ _ => some ("pod_logs", "pods")
  | .ping => some ("ping", "cluster")
  | .install _ => some ("install", "releases")
  | .upgrade _ => some ("upgrade", "releases")
  | .uninstall _ _ => some ("uninstall", "releases")
  | .rollback _ _ _ => some ("rollback", "releases")
  | .releaseStatus _ _ => some ("status", "releases")
  | .releaseList _ _ => some ("list", "releases")
  | .releaseHistory _ _ => some ("history", "releases")
  | .releaseVersion => some ("version", "releases")
  | .checkpoint => none
  | .connect _ => none
  | .request _ => none

/-- What a fault makes of a call. Each kind of back end knows some of these, and takes the others for
its most common one: a conflict, or a command that failed. -/
inductive FaultKind where
  | conflict
  | notFound
  | invalid
  | command
  | parse
  | stall
  deriving DecidableEq

namespace FaultKind

/-- Every kind of fault. -/
def all : List FaultKind :=
  [conflict, notFound, invalid, command, parse, stall]

/-- The word for a kind. -/
def word : FaultKind → String
  | conflict => "conflict"
  | notFound => "not_found"
  | invalid => "invalid"
  | command => "command"
  | parse => "parse"
  | stall => "stall"

/-- The kind that a word stands for; every unknown word is for the most common one. -/
def ofWord (word : String) : FaultKind :=
  (all.find? fun kind => kind.word == word).getD conflict

end FaultKind

/-- A fault, with the number of calls that it still lets pass and of those that it still strikes. -/
structure Fault where
  call : String
  target : String
  skip : Nat
  times : Nat
  kind : FaultKind
  message : String

namespace Fault

/-- The target of faults that strike any of them. -/
def anyTarget : String := "*"

/-- The fault is for calls with these words. -/
def concerns (fault : Fault) (word target : String) : Bool :=
  fault.call == word && (fault.target == anyTarget || fault.target == target)

/-- The fault that strikes a call, if one does, and the faults afterwards. The first that may strike
does so; those before it that let the call pass have one call less to let pass. -/
def strike? (word target : String) : List Fault → Option Fault × List Fault
  | [] => (none, [])
  | fault :: rest =>
    if !fault.concerns word target || fault.times = 0 then
      let (struck, rest) := strike? word target rest
      (struck, fault :: rest)
    else if 0 < fault.skip then
      let (struck, rest) := strike? word target rest
      (struck, { fault with skip := fault.skip - 1 } :: rest)
    else (some fault, { fault with times := fault.times - 1 } :: rest)

/-- What a call of the cluster fails with, unless it never ends. -/
def clusterError? (fault : Fault) (plural name : String) : Option ClusterError :=
  match fault.kind with
  | .notFound => some (.notFound plural name)
  | .invalid => some (.invalidObject fault.message)
  | .stall => none
  | _ => some (.conflict fault.message)

/-- What a call of the release manager fails with, unless it never ends. -/
def releaseError? (fault : Fault) (name : String) : Option ReleaseError :=
  match fault.kind with
  | .notFound => some (.notFound name)
  | .parse => some (.unexpected fault.message)
  | .stall => none
  | _ => some (.commandFailed fault.call fault.message)

/-- The reply that a fault makes to a call, unless it never ends. -/
def reply? (fault : Fault) : (c : Call) → Option c.Reply
  | .checkpoint => some (.ok ())
  | .connect _ => some (.ok ())
  | .get kind _ name => (fault.clusterError? kind.plural name).map .error
  | .list kind _ _ => (fault.clusterError? kind.plural "").map .error
  | .create kind _ _ => (fault.clusterError? kind.plural "").map .error
  | .update kind _ _ => (fault.clusterError? kind.plural "").map .error
  | .delete kind _ name => (fault.clusterError? kind.plural name).map .error
  | .podLogs _ _ _ _ => (fault.clusterError? "pods" "").map .error
  | .ping => (fault.clusterError? "cluster" "").map .error
  | .install request => (fault.releaseError? request.name).map .error
  | .upgrade request => (fault.releaseError? request.name).map .error
  | .uninstall _ name => (fault.releaseError? name).map .error
  | .rollback _ name _ => (fault.releaseError? name).map .error
  | .releaseStatus _ name => (fault.releaseError? name).map .error
  | .releaseList _ _ => (fault.releaseError? "").map .error
  | .releaseHistory _ name => (fault.releaseError? name).map .error
  | .releaseVersion => (fault.releaseError? "").map .error
  | .request _ => some (.error .unreachable)

end Fault

end DeploymentGateway
