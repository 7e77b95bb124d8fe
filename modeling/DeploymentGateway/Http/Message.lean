import DeploymentGateway.Failure
import DeploymentGateway.Http.MediaType
import DeploymentGateway.Http.Target
import DeploymentGateway.Json.Printer
import DeploymentGateway.Json.Reader
/-!
Requests to the gateway and its responses.
-/

set_option autoImplicit false

namespace DeploymentGateway.Http

/-- A request: a method, where it goes, the type of the content where the request tells one, and the
content. -/
structure Request where
  method : String
  target : Target
  contentType : Option String
  content : String

/-- A text can be the value of a header: it has no control characters but tabs. -/
def isHeaderValue (s : String) : Bool :=
  s.toList.all fun c => c == '\t' || (' ' ≤ c && c.toNat != 0x7F)

/-- The request with some parts, if they make one: the method is a token, the target stands for one, and
the type of the content can be sent. -/
def Request.ofParts? (method target : String) (contentType : Option String) (content : String) :
    Option Request :=
  if isToken method && contentType.all isHeaderValue then
    (Target.ofText? target).map fun target => ⟨method, target, contentType, content⟩
  else none

/-- The content of a response. -/
inductive Content where
  | empty
  | text (s : String)
  | json (value : Json)

/-- The text of a content. -/
def Content.toText : Content → String
  | empty => ""
  | text s => s
  | json value => value.render

/-- The value that a content is read as: that of its text where the text is JSON, or else the text. -/
def Content.toJson (content : Content) : Json :=
  (Json.parse? content.toText).getD (.string content.toText)

/-- A response: a status code and the content. -/
structure Response where
  status : Nat
  content : Content

namespace Response

/-- A response without content. -/
def bare (status : Nat) : Response :=
  ⟨status, .empty⟩

/-- A response with a text. -/
def ofText (status : Nat) (text : String) : Response :=
  ⟨status, .text text⟩

/-- A response with a value. -/
def ofJson (status : Nat) (value : Json) : Response :=
  ⟨status, .json value⟩

/-- A response that keeps its content to itself. -/
def withoutContent (response : Response) : Response :=
  { response with content := .empty }

end Response

/-- The status code for a kind of failure. -/
def statusOf : FailureKind → Nat
  | .notFound => 404
  | .validation => 400
  | .unsupported => 501
  | .backend => 502
  | .cancelled => 503

/-- The response to a failed operation. -/
def Response.ofFailure (failure : Failure) : Response :=
  .ofText (statusOf failure.kind) failure.message

/-- The response to an operation. -/
def Response.ofOutcome : Outcome Response → Response
  | .ok response => response
  | .error failure => .ofFailure failure

end DeploymentGateway.Http
