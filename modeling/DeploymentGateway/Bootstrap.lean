import DeploymentGateway.Configuration
/-!
The adapters of a configuration: one is built for each table and registered under its name. Nothing here
asks a back end; only a token is taken from the environment, where an adapter needs one.
-/

set_option autoImplicit false

namespace DeploymentGateway

/-- The variables of an environment that are set. -/
abbrev Environment : Type := String → Option String

/-- The adapter of a table, unless the variable for its token is not set. -/
def AdapterTable.build (environment : Environment) (table : AdapterTable) :
    Except ConfigurationError Adapter :=
  match table.settings with
  | .argocd home => .ok (.argocd table.name home)
  | .argocdRest baseUrl tokenVariable home timeoutSeconds =>
    match environment tokenVariable with
    | some token => .ok (.argocdRest table.name baseUrl token home timeoutSeconds)
    | none => .error (.missingVariable table.name tokenVariable)
  | .crossplane composite => .ok (.crossplane table.name composite)
  | .flux home => .ok (.flux table.name home)
  | .helm binary context => .ok (.helm table.name binary context)

/-- The registry of a configuration in an environment. -/
def Configuration.registry (config : Configuration) (environment : Environment) :
    Except ConfigurationError Registry :=
  config.adapters.foldlM
    (fun registry table => do return registry.register (← table.build environment)) .empty

end DeploymentGateway
