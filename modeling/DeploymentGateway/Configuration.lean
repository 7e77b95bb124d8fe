import DeploymentGateway.Adapter
import DeploymentGateway.Rules
import DeploymentGateway.Text.Blank
import DeploymentGateway.Toml.Document
/-!
The configuration of the gateway: where it listens, how long an operation may take, and its adapters.
A configuration is accepted where every adapter has a proper name of its own and every address of a
server is one of HTTP.
-/

set_option autoImplicit false

namespace DeploymentGateway

open Toml (Value)

/-- The table of an adapter: its name in the gateway, and its settings. -/
structure AdapterTable where
  name : String
  settings : Settings

/-- A configuration. A limit of zero seconds sets no limit. -/
structure Configuration where
  listen : String
  timeoutSeconds : UInt64
  adapters : List AdapterTable

/-- Why there is no configuration, or no gateway for it. -/
inductive ConfigurationError where
  | unreadable
  | invalidName (failure : Failure)
  | repeatedName (name : String)
  | badAddress (name : String)
  | missingVariable (name token : String)

/-- The text of an error, absent where it is not the gateway's. -/
def ConfigurationError.message? : ConfigurationError → Option String
  | unreadable => none
  | invalidName failure => some failure.message
  | repeatedName name => some ("adapter " ++ name ++ " is declared more than once")
  | badAddress name => some ("adapter " ++ name ++ ": base_url must be an http(s) URL")
  | missingVariable name token =>
    some ("adapter " ++ name ++ ": env var " ++ token ++ " is not set")

namespace Configuration

/-- The configuration without any settings. -/
def default : Configuration :=
  ⟨"0.0.0.0:8080", 30, []⟩

/-! ## Reading settings -/

/-- The entries of a table of settings. -/
abbrev Entries : Type := List (String × Value)

/-- A text, where the setting is there. -/
def optionalText (entries : Entries) (name : String) : Option (Option String) :=
  match Fields.get? name entries with
  | none => some none
  | some (.string s) => some (some s)
  | some _ => none

/-- A text that has to be there. -/
def requiredText (entries : Entries) (name : String) : Option String :=
  (optionalText entries name).bind id

/-- A text with a default. -/
def textOr (entries : Entries) (name default : String) : Option String :=
  (optionalText entries name).map fun found => found.getD default

/-- A count with a default. -/
def countOr (entries : Entries) (name : String) (default : UInt64) : Option UInt64 :=
  match Fields.get? name entries with
  | none => some default
  | some (.integer n) => if 0 ≤ n then some (UInt64.ofNat n.toNat) else none
  | some _ => none

/-- The settings in a value: those of a table by name, or the items of an array in the order of their
names. A date or time has no settings in it. -/
def entriesOf (names : List String) : Value → Option Entries
  | .table entries => some entries
  | .array items => some (names.zip items)
  | .moment => some []
  | _ => none

/-- The kind of composites. As an array it has exactly its four parts. -/
def readComposite (value : Value) : Option Cluster.ResourceKind := do
  let names := ["group", "version", "kind", "plural"]
  if let .array items := value then
    if names.length < items.length then none
  let entries ← entriesOf names value
  return {
    group := ← requiredText entries "group"
    version := ← requiredText entries "version"
    kind := ← requiredText entries "kind"
    plural := ← requiredText entries "plural"
    namespaced := false }

/-- The namespace of application objects where none is set. -/
def defaultApplicationHome : String := "argocd"

/-- The namespace of reconciled objects where none is set. -/
def defaultReconciliationHome : String := "flux-system"

/-- The settings of an adapter of a kind. -/
def readSettings (kind : AdapterKind) (entries : Entries) : Option Settings :=
  match kind with
  | .argocd => return .argocd (← textOr entries "namespace" defaultApplicationHome)
  | .argocdRest => do
    let baseUrl ← requiredText entries "base_url"
    let token ← textOr entries "token_env" "ARGOCD_AUTH_TOKEN"
    let home ← textOr entries "namespace" defaultApplicationHome
    let timeout ← countOr entries "timeout_secs" 30
    return .argocdRest baseUrl token home timeout
  | .crossplane => do
    return .crossplane (← readComposite (← Fields.get? "composite" entries))
  | .flux => return .flux (← textOr entries "namespace" defaultReconciliationHome)
  | .helm => do
    let binary ← textOr entries "binary" "helm"
    return .helm binary (← optionalText entries "kube_context")

/-- The table of an adapter. -/
def readAdapter (value : Value) : Option AdapterTable :=
  match value with
  | .table entries => do
    let name ← requiredText entries "name"
    let kind ← AdapterKind.ofWord? (← requiredText entries "kind")
    return ⟨name, ← readSettings kind entries⟩
  | _ => none

/-- The tables of the adapters, of which there may be none. -/
def readAdapters (entries : Entries) : Option (List AdapterTable) :=
  match Fields.get? "adapters" entries with
  | none => some []
  | some (.array items) => items.mapM readAdapter
  | some _ => none

/-- A configuration from the table of a document. What is not known in it is ignored. -/
def ofTable? (entries : Entries) : Option Configuration := do
  let server ← match Fields.get? "server" entries with
    | none => some []
    | some value => entriesOf ["listen", "request_timeout_secs"] value
  let listen ← textOr server "listen" default.listen
  let timeoutSeconds ← countOr server "request_timeout_secs" default.timeoutSeconds
  return ⟨listen, timeoutSeconds, ← readAdapters entries⟩

/-! ## Accepting a configuration -/

/-- The address is one of HTTP. -/
def isHttpAddress (address : String) : Bool :=
  Text.startsWith "http://" address || Text.startsWith "https://" address

/-- The table of one adapter is acceptable after those whose names are taken. -/
def checkAdapter (taken : List String) (adapter : AdapterTable) : Except ConfigurationError Unit :=
  match Rules.checkName "adapters.name" adapter.name with
  | .error failure => .error (.invalidName failure)
  | .ok () =>
    if taken.contains adapter.name then .error (.repeatedName adapter.name)
    else match adapter.settings with
      | .argocdRest baseUrl _ _ _ =>
        if isHttpAddress baseUrl then .ok () else .error (.badAddress adapter.name)
      | _ => .ok ()

/-- All tables are acceptable, each after those before it. -/
def checkAdapters (taken : List String) : List AdapterTable → Except ConfigurationError Unit
  | [] => .ok ()
  | adapter :: rest => do
    checkAdapter taken adapter
    checkAdapters (adapter.name :: taken) rest

/-- The configuration is acceptable. -/
def check (config : Configuration) : Except ConfigurationError Unit :=
  checkAdapters [] config.adapters

/-- The configuration that a document stands for, if it is acceptable. -/
def parse (source : String) : Except ConfigurationError Configuration :=
  match (Toml.parse? source).bind ofTable? with
  | none => .error .unreadable
  | some config => do
    config.check
    return config

/-- The configuration of a file, which need not be there. -/
def load (source : Option String) : Except ConfigurationError Configuration :=
  match source with
  | some source => parse source
  | none => .ok default

/-- The configuration with another address to listen at, where one is given. -/
def withListen (config : Configuration) (listen : Option String) : Configuration :=
  match listen.filter fun s => !Text.isBlankText s with
  | some listen => { config with listen }
  | none => config

/-- How many seconds an operation may take, where there is a limit. -/
def timeLimit (config : Configuration) : Option UInt64 :=
  if config.timeoutSeconds = 0 then none else some config.timeoutSeconds

/-! ## Showing a configuration -/

/-- The settings of an adapter with their defaults filled in. -/
def settingsJson (settings : Settings) : Json :=
  .ofPairs (("kind", .string settings.kind.word) :: match settings with
    | .argocd home => [("namespace", .string home)]
    | .argocdRest baseUrl token home timeout => [
      ("base_url", .string baseUrl), ("token_env", .string token), ("namespace", .string home),
      ("timeout_secs", .ofInt timeout.toNat)]
    | .crossplane kind => [
      ("group", .string kind.group), ("version", .string kind.version),
      ("composite_kind", .string kind.kind), ("plural", .string kind.plural),
      ("namespaced", .bool kind.namespaced), ("api_version", .string kind.apiVersion)]
    | .flux home => [("namespace", .string home)]
    | .helm binary context => [
      ("binary", .string binary), ("kube_context", .ofText? context)])

/-- A configuration with its defaults filled in. -/
def toJson (config : Configuration) : Json :=
  let seconds (n : UInt64) : Json := .ofInt n.toNat
  let shown (adapter : AdapterTable) : Json :=
    .ofPairs [("name", .string adapter.name), ("settings", settingsJson adapter.settings)]
  .ofPairs [
    ("listen", .string config.listen), ("request_timeout_secs", seconds config.timeoutSeconds),
    ("request_timeout", .ofOption seconds config.timeLimit),
    ("adapters", .array (config.adapters.map shown))]

end Configuration

end DeploymentGateway
