import DeploymentGateway.Text.Split
/-!
The places that the gateway serves, the methods of each, and what they do there.
-/

set_option autoImplicit false

namespace DeploymentGateway.Http

/-- What a path leads to, with the names in it as they were sent. -/
inductive Place where
  | liveness
  | adapters
  | adapter (adapter : String)
  | adapterHealth (adapter : String)
  | packages (adapter : String)
  | package (adapter id : String)
  | deployments (adapter : String)
  | deployment (adapter id : String)
  | scale (adapter id : String)
  | rollback (adapter id : String)
  | status (adapter id : String)
  | history (adapter id : String)
  | logs (adapter id : String)
  deriving DecidableEq

namespace Place

/-- The place below one adapter that further segments lead to. -/
def ofAdapterSegments? (name : String) : List String → Option Place
  | [] => some (adapter name)
  | ["health"] => some (adapterHealth name)
  | ["packages"] => some (packages name)
  | ["packages", id] => some (package name id)
  | ["deployments"] => some (deployments name)
  | ["deployments", id] => some (deployment name id)
  | ["deployments", id, "scale"] => some (scale name id)
  | ["deployments", id, "rollback"] => some (rollback name id)
  | ["deployments", id, "status"] => some (status name id)
  | ["deployments", id, "history"] => some (history name id)
  | ["deployments", id, "logs"] => some (logs name id)
  | _ => none

/-- The place that the segments of a path lead to. -/
def ofSegments? : List String → Option Place
  | ["healthz"] => some liveness
  | ["api", "v1", "adapters"] => some adapters
  | "api" :: "v1" :: "adapters" :: name :: rest => ofAdapterSegments? name rest
  | _ => none

/-- The place that a path leads to. The last segment of such a path has something in it. -/
def ofPath? (path : String) : Option Place :=
  match Text.piecesAt '/' path with
  | "" :: segments => if segments.getLast?.all String.isEmpty then none else ofSegments? segments
  | _ => none

end Place

/-- What the gateway does for a request. -/
inductive Endpoint where
  | liveness
  | listAdapters
  | getAdapter (adapter : String)
  | adapterHealth (adapter : String)
  | listPackages (adapter : String)
  | uploadPackage (adapter : String)
  | getPackage (adapter id : String)
  | deletePackage (adapter id : String)
  | listDeployments (adapter : String)
  | createDeployment (adapter : String)
  | getDeployment (adapter id : String)
  | updateDeployment (adapter id : String)
  | deleteDeployment (adapter id : String)
  | scaleDeployment (adapter id : String)
  | rollbackDeployment (adapter id : String)
  | deploymentStatus (adapter id : String)
  | deploymentHistory (adapter id : String)
  | deploymentLogs (adapter id : String)
  deriving DecidableEq

/-- What a method does at a place, if anything. A request for the headers alone is answered like one
for the whole. -/
def Endpoint.of? (method : String) (place : Place) : Option Endpoint :=
  let method := if method == "HEAD" then "GET" else method
  match place, method with
  | .liveness, "GET" => some .liveness
  | .adapters, "GET" => some .listAdapters
  | .adapter a, "GET" => some (.getAdapter a)
  | .adapterHealth a, "GET" => some (.adapterHealth a)
  | .packages a, "GET" => some (.listPackages a)
  | .packages a, "POST" => some (.uploadPackage a)
  | .package a id, "GET" => some (.getPackage a id)
  | .package a id, "DELETE" => some (.deletePackage a id)
  | .deployments a, "GET" => some (.listDeployments a)
  | .deployments a, "POST" => some (.createDeployment a)
  | .deployment a id, "GET" => some (.getDeployment a id)
  | .deployment a id, "PUT" => some (.updateDeployment a id)
  | .deployment a id, "DELETE" => some (.deleteDeployment a id)
  | .scale a id, "POST" => some (.scaleDeployment a id)
  | .rollback a id, "POST" => some (.rollbackDeployment a id)
  | .status a id, "GET" => some (.deploymentStatus a id)
  | .history a id, "GET" => some (.deploymentHistory a id)
  | .logs a id, "GET" => some (.deploymentLogs a id)
  | _, _ => none

end DeploymentGateway.Http
