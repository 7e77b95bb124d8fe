import DeploymentGateway.Application.OnServer
import DeploymentGateway.Composite.OnCluster
import DeploymentGateway.Flux.OnCluster
import DeploymentGateway.Release.OnManager
/-!
Adapters: named back ends that tell of themselves what they are and what they can do, the settings that
they are set up with, and the registry in which the gateway looks them up by name.
-/

set_option autoImplicit false

namespace DeploymentGateway

open Cluster

/-- What the adapters of each kind are set up with: where their objects live, and how their back end
is reached. -/
inductive Settings where
  | argocd (home : String)
  | argocdRest (baseUrl tokenVariable home : String) (timeoutSeconds : UInt64)
  | crossplane (composite : ResourceKind)
  | flux (home : String)
  | helm (binary : String) (context : Option String)

namespace Settings

/-- The kind of adapter that settings are for. -/
def kind : Settings → AdapterKind
  | argocd _ => .argocd
  | argocdRest _ _ _ _ => .argocdRest
  | crossplane _ => .crossplane
  | flux _ => .flux
  | helm _ _ => .helm

/-- What a back end with settings can do. -/
def capabilities : Settings → List Capability
  | argocd _ => Application.OnCluster.capabilities
  | argocdRest _ _ _ _ => Application.OnServer.capabilities
  | crossplane _ => Composite.OnCluster.capabilities
  | flux _ => Flux.OnCluster.capabilities
  | helm _ _ => Release.OnManager.capabilities

/-- A base address without slashes at its end. -/
def addressOf (baseUrl : String) : String :=
  String.ofList (Text.dropEndWhile (· == '/') baseUrl.toList)

/-- The operations that settings are for, at an instant. -/
def operations (settings : Settings) (now : Time.Instant) : Operations :=
  match settings with
  | argocd home => Application.OnCluster.operations home now
  | argocdRest baseUrl _ home _ => Application.OnServer.operations home now (addressOf baseUrl)
  | crossplane composite => Composite.OnCluster.operations composite now
  | flux home => Flux.OnCluster.operations home now
  | helm _ _ => Release.OnManager.operations now

end Settings

/-- What a client of an adapter is connected to. -/
inductive Connection where
  | cluster
  | program (binary : String) (context : Option String)
  | server (baseUrl token home : String) (timeoutSeconds : UInt64)

/-- An adapter: a back end under a name, with its operations at an instant and what those of its clients
that it has are connected to on their first use. -/
structure Adapter where
  name : String
  kind : AdapterKind
  capabilities : List Capability
  operations : Time.Instant → Operations
  connection : Client → Option Connection

namespace Adapter

/-- The adapter for applications of a cluster. -/
def argocd (name home : String) : Adapter where
  name
  kind := .argocd
  capabilities := Application.OnCluster.capabilities
  operations := Application.OnCluster.operations home
  connection
    | .cluster => some .cluster
    | _ => none

/-- The adapter for applications of a server, which is asked with a token. -/
def argocdRest (name baseUrl token home : String) (timeoutSeconds : UInt64) : Adapter where
  name
  kind := .argocdRest
  capabilities := Application.OnServer.capabilities
  operations now := Application.OnServer.operations home now (Settings.addressOf baseUrl)
  connection
    | .server => some (.server baseUrl token home timeoutSeconds)
    | _ => none

/-- The adapter for composites. -/
def crossplane (name : String) (composite : ResourceKind) : Adapter where
  name
  kind := .crossplane
  capabilities := Composite.OnCluster.capabilities
  operations := Composite.OnCluster.operations composite
  connection
    | .cluster => some .cluster
    | _ => none

/-- The adapter for reconciled objects. -/
def flux (name home : String) : Adapter where
  name
  kind := .flux
  capabilities := Flux.OnCluster.capabilities
  operations := Flux.OnCluster.operations home
  connection
    | .cluster => some .cluster
    | _ => none

/-- The adapter for releases, which keeps its records in a cluster. -/
def helm (name binary : String) (context : Option String) : Adapter where
  name
  kind := .helm
  capabilities := Release.OnManager.capabilities
  operations := Release.OnManager.operations
  connection
    | .releases => some (.program binary context)
    | .cluster => some .cluster
    | .server => none

/-- What the gateway tells of an adapter. -/
def toJson (adapter : Adapter) : Json :=
  .ofPairs [
    ("name", .string adapter.name), ("kind", .string adapter.kind.word),
    ("capabilities", .array (adapter.capabilities.map Capability.toJson))]

end Adapter

/-- The adapters of a gateway, by name. -/
abbrev Registry : Type := SortedMap String Adapter

/-- Register an adapter in place of any other of its name. -/
def Registry.register (registry : Registry) (adapter : Adapter) : Registry :=
  registry.insert adapter.name adapter

/-- The registry of some adapters; of two with one name the later stays. -/
def Registry.ofAdapters (adapters : List Adapter) : Registry :=
  adapters.foldl Registry.register .empty

/-- The adapters of a registry, with their number. -/
def Registry.toJson (registry : Registry) : Json :=
  .ofPairs [
    ("len", .ofInt registry.size), ("empty", .bool registry.isEmpty),
    ("adapters", .array (registry.values.map Adapter.toJson))]

end DeploymentGateway
