import DeploymentGateway.Json.Basic
/-!
Requests to an application server: a method, a path under its address, the pairs of the query, and a
body.
-/

set_option autoImplicit false

namespace DeploymentGateway.Server

/-- The methods that the gateway uses. -/
inductive Method where
  | get
  | post
  | put
  | delete
  deriving DecidableEq

/-- The word for a method. -/
def Method.word : Method → String
  | get => "GET"
  | post => "POST"
  | put => "PUT"
  | delete => "DELETE"

/-- A request. The path is encoded as it is sent. -/
structure Request where
  method : Method
  path : String
  query : List (String × String)
  body : Option Json

end DeploymentGateway.Server
