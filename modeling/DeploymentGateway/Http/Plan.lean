import DeploymentGateway.Adapter
import DeploymentGateway.Http.Endpoint
import DeploymentGateway.Http.Query
/-!
From a request to a plan: a response that needs no back end, or an operation of an adapter whose
result makes the response. What a request carries is read in the order path, query, content, all of it
before the adapter is looked up.
-/

set_option autoImplicit false

namespace DeploymentGateway.Http

open Json (Reader Record)

/-- What is to be done for a request. -/
inductive Plan where
  | respond (response : Response)
  | operate (adapter : Adapter) (program : Program Response)

/-- A part of a request, or the response that refuses it. -/
abbrev Extracted (α : Type) : Type := Except Response α

/-- The name that a segment of a path stands for. -/
def nameOfSegment (segment : String) : Extracted String :=
  match Text.Percent.decode? segment with
  | some name => .ok name
  | none => .error (.ofText 400 "Invalid URL")

/-- A query as something, or its refusal. -/
def readQuery {α : Type} (read : String → Option α) (request : Request) : Extracted α :=
  match read request.target.query with
  | some a => .ok a
  | none => .error (.ofText 400 "Failed to deserialize query string")

/-- The most bytes of content that are read. -/
def maxContentBytes : Nat := 2097152

/-- The content of a request as a value of a record. Its type is checked before its size, and that
before anything in it. -/
def readContent {α : Type} (record : Record α) (request : Request) : Extracted α :=
  if (request.contentType.bind MediaType.ofHeader?).any MediaType.isJson then
    if maxContentBytes < request.content.utf8ByteSize then
      .error (.ofText 413 "Failed to buffer the request body")
    else match Reader.runText record.reader request.content with
      | .ok a => .ok a
      | .error .malformed => .error (.ofText 400 "Failed to parse the request body as JSON")
      | .error .mismatch =>
        .error (.ofText 422 "Failed to deserialize the JSON body into the target type")
  else .error (.ofText 415 "Expected request with `Content-Type: application/json`")

/-- How many replicas a request asks for. -/
def replicasRecord : Record Int32 :=
  .required "replicas" Reader.int32

/-- Which position of the history a request asks for. -/
def revisionRecord : Record Int64 :=
  .required "revision" Reader.int64

section

variable (registry : Registry) (now : Time.Instant)

/-- The adapter of a name. -/
def findAdapter (name : String) : Extracted Adapter :=
  match registry.get? name with
  | some adapter => .ok adapter
  | none => .error (.ofText 404 ("adapter not found: " ++ name))

/-- The filter that the query of a listing asks for. -/
def filterOf (query : ListQuery) : Extracted Filter :=
  match query.toFilter with
  | .ok filter => .ok filter
  | .error term => .error (.ofText 400 (ListQuery.refusal term))

/-- An operation of the adapter of a name. -/
def operateOn {α : Type} (name : String) (operation : Operations → Program α)
    (respond : α → Response) : Extracted Plan := do
  let adapter ← findAdapter registry name
  return .operate adapter (respond <$> operation (adapter.operations now))

/-- A list under one name. -/
def listed {α : Type} (name : String) (toJson : α → Json) (items : List α) : Response :=
  .ofJson 200 (.ofPairs [(name, .array (items.map toJson))])

/-- The plan for what an endpoint is asked. -/
def planFor (request : Request) : Endpoint → Extracted Plan
  | .liveness =>
    return .respond (.ofJson 200 (.ofPairs [
      ("status", .string "ok"), ("adapters", .ofInt registry.size)]))
  | .listAdapters =>
    return .respond (listed "adapters" Adapter.toJson registry.values)
  | .getAdapter segment => do
    let adapter ← findAdapter registry (← nameOfSegment segment)
    return .respond (.ofJson 200 adapter.toJson)
  | .adapterHealth segment => do
    let name ← nameOfSegment segment
    operateOn registry now name (fun o => o.health) fun () =>
      .ofJson 200 (.ofPairs [("adapter", .string name), ("status", .string "ok")])
  | .listPackages segment => do
    let name ← nameOfSegment segment
    let query ← readQuery ListQuery.ofQuery? request
    let _ ← findAdapter registry name
    let filter ← filterOf query
    operateOn registry now name (fun o => o.listPackages filter) (listed "packages" Package.toJson)
  | .uploadPackage segment => do
    let name ← nameOfSegment segment
    let upload ← readContent PackageUpload.record request
    operateOn registry now name (fun o => o.uploadPackage upload) fun p => .ofJson 201 p.toJson
  | .getPackage adapterSegment idSegment => do
    let name ← nameOfSegment adapterSegment
    let id ← nameOfSegment idSegment
    operateOn registry now name (fun o => o.getPackage id) fun p => .ofJson 200 p.toJson
  | .deletePackage adapterSegment idSegment => do
    let name ← nameOfSegment adapterSegment
    let id ← nameOfSegment idSegment
    operateOn registry now name (fun o => o.deletePackage id) fun () => .bare 204
  | .listDeployments segment => do
    let name ← nameOfSegment segment
    let query ← readQuery ListQuery.ofQuery? request
    let _ ← findAdapter registry name
    let filter ← filterOf query
    operateOn registry now name (fun o => o.listDeployments filter)
      (listed "deployments" Deployment.toJson)
  | .createDeployment segment => do
    let name ← nameOfSegment segment
    let wanted ← readContent DeploymentRequest.record request
    operateOn registry now name (fun o => o.createDeployment wanted) fun d => .ofJson 201 d.toJson
  | .getDeployment adapterSegment idSegment => do
    let name ← nameOfSegment adapterSegment
    let id ← nameOfSegment idSegment
    operateOn registry now name (fun o => o.getDeployment id) fun d => .ofJson 200 d.toJson
  | .updateDeployment adapterSegment idSegment => do
    let name ← nameOfSegment adapterSegment
    let id ← nameOfSegment idSegment
    let update ← readContent DeploymentUpdate.record request
    operateOn registry now name (fun o => o.updateDeployment id update) fun d =>
      .ofJson 200 d.toJson
  | .deleteDeployment adapterSegment idSegment => do
    let name ← nameOfSegment adapterSegment
    let id ← nameOfSegment idSegment
    operateOn registry now name (fun o => o.deleteDeployment id) fun () => .bare 204
  | .scaleDeployment adapterSegment idSegment => do
    let name ← nameOfSegment adapterSegment
    let id ← nameOfSegment idSegment
    let replicas ← readContent replicasRecord request
    operateOn registry now name (fun o => o.scaleDeployment id replicas) fun d =>
      .ofJson 200 d.toJson
  | .rollbackDeployment adapterSegment idSegment => do
    let name ← nameOfSegment adapterSegment
    let id ← nameOfSegment idSegment
    let revision ← readContent revisionRecord request
    operateOn registry now name (fun o => o.rollbackDeployment id revision) fun d =>
      .ofJson 202 d.toJson
  | .deploymentStatus adapterSegment idSegment => do
    let name ← nameOfSegment adapterSegment
    let id ← nameOfSegment idSegment
    operateOn registry now name (fun o => o.deploymentStatus id) fun s => .ofJson 200 s.toJson
  | .deploymentHistory adapterSegment idSegment => do
    let name ← nameOfSegment adapterSegment
    let id ← nameOfSegment idSegment
    operateOn registry now name (fun o => o.deploymentHistory id) fun h => .ofJson 200 h.toJson
  | .deploymentLogs adapterSegment idSegment => do
    let name ← nameOfSegment adapterSegment
    let id ← nameOfSegment idSegment
    let options ← readQuery logOptionsOfQuery? request
    operateOn registry now name (fun o => o.deploymentLogs id options) fun l =>
      .ofJson 200 l.toJson

/-- The plan for a request. Anybody may ask any path for the options of access. -/
def Plan.of (request : Request) : Plan :=
  if request.method == "OPTIONS" then .respond (.bare 200)
  else match Place.ofPath? request.target.path with
    | none => .respond (.bare 404)
    | some place =>
      match Endpoint.of? request.method place with
      | none => .respond (.bare 405)
      | some endpoint =>
        match planFor registry now request endpoint with
        | .ok plan => plan
        | .error refusal => .respond refusal

end

/-- The response as it is sent: without its content where the request asked for the headers alone. -/
def Response.sentFor (request : Request) (response : Response) : Response :=
  if request.method == "HEAD" then response.withoutContent else response

end DeploymentGateway.Http
