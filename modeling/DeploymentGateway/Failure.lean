import DeploymentGateway.Cluster.Basic
import DeploymentGateway.Release.Basic
import DeploymentGateway.Server.Basic
/-!
The failures that an operation on deployments can report, with their texts and the broad kinds that
tell callers how to react.
-/

set_option autoImplicit false

namespace DeploymentGateway

/-- What a back end failed with. -/
inductive Cause where
  | cluster (error : Cluster.ClusterError)
  | release (error : Release.ReleaseError)
  | server (error : Server.ServerError)
  | malformed (message : String)
  deriving DecidableEq

/-- The text of a cause, absent where it is not the gateway's. -/
def Cause.message? : Cause → Option String
  | .cluster error => error.message?
  | .release error => some error.message
  | .server error => error.message?
  | .malformed message => some ("malformed response: " ++ message)

/-- A failure of an operation. -/
inductive Failure where
  | deploymentNotFound (id : String)
  | packageNotFound (id : String)
  | revisionNotFound (id : String) (revision : Int64) (available : Nat)
  | invalid (field reason : String)
  | unsupported (backend operation message : String)
  | failed (backend operation resource : String) (cause : Cause)
  | cancelled
  deriving DecidableEq

/-- The broad kinds of failures. -/
inductive FailureKind where
  | notFound
  | validation
  | unsupported
  | backend
  | cancelled
  deriving DecidableEq

namespace Failure

/-- The kind of a failure. -/
def kind : Failure → FailureKind
  | deploymentNotFound _ => .notFound
  | packageNotFound _ => .notFound
  | revisionNotFound _ _ _ => .notFound
  | invalid _ _ => .validation
  | unsupported _ _ _ => .unsupported
  | failed _ _ _ _ => .backend
  | cancelled => .cancelled

/-- The text of a failure. -/
def message : Failure → String
  | deploymentNotFound id => "deployment not found: " ++ id
  | packageNotFound id => "package not found: " ++ id
  | revisionNotFound id revision available =>
    "revision " ++ Text.signedDecimal revision.toInt ++ " not found in history of " ++ id ++ " (" ++
      Text.decimal available ++ " revisions)"
  | invalid field reason => "invalid " ++ field ++ ": " ++ reason
  | unsupported backend operation message =>
    operation ++ " is not supported by " ++ backend ++ ": " ++ message
  | failed backend operation resource cause =>
    backend ++ " " ++ operation ++ " failed for " ++ resource ++ ":" ++
      (match cause.message? with
        | some text => " " ++ text
        | none => "")
  | cancelled => "operation cancelled"

/-- A response of a back end that lacks what it should have. -/
def malformed (backend operation resource message : String) : Failure :=
  .failed backend operation resource (.malformed message)

end Failure

/-- A result, or why there is none. -/
abbrev Outcome (α : Type) : Type := Except Failure α

end DeploymentGateway
