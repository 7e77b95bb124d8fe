import DeploymentGateway.Json.Printer
import DeploymentGateway.Json.Reader
import DeploymentGateway.Release.Document
/-!
The release manager's program: the arguments it is run with for each request, and what its results
mean. A run that fails because there is no such release is told apart from every other failure.
-/

set_option autoImplicit false

namespace DeploymentGateway.Release

/-- The result of a run: the exit code and what the program wrote. -/
structure RunResult where
  exit : Nat
  stdout : String
  stderr : String

/-- The exit code of a run that ends with a number: its last eight bits. -/
def exitCode (ending : Int) : Nat :=
  (ending % 256).toNat

/-- A command: the arguments of its run, and how its output is read. -/
structure Command (α : Type) where
  arguments : List String
  read : String → Except ReleaseError α

/-- The failure of a command with a text on its error stream. It names a missing release where a line
says so at its end; a missing chart, repository or namespace is a failure like any other. -/
def classifyFailure (command stderr : String) : ReleaseError :=
  if (Text.lines stderr).any fun line => Text.endsWith "release: not found" (Text.trimEnd line) then
    .notFound stderr
  else .commandFailed command stderr

namespace Command

variable {α : Type}

/-- The first two arguments, which tell of a command in messages. -/
def title (command : Command α) : String :=
  Text.joinWith " " (command.arguments.take 2)

/-- What the result of a run means. -/
def outcome (command : Command α) (result : RunResult) : Except ReleaseError α :=
  if result.exit = 0 then command.read result.stdout
  else .error (classifyFailure command.title (Text.trim result.stderr))

/-- The values of a release, each with an option in front. -/
def valueArguments (values : Extensions) : List String :=
  values.toList.flatMap fun (name, value) => ["--set-json", name ++ "=" ++ value.render]

/-- An option with its value, where there is one. -/
def optionArguments (option : String) : Option String → List String
  | some value => [option, value]
  | none => []

/-- A flag where it is set. -/
def flagArguments (flag : String) (isSet : Bool) : List String :=
  if isSet then [flag] else []

/-- The arguments of an installation. -/
def installArguments (request : InstallRequest) : List String :=
  ["install", request.name, request.chart, "--namespace", request.namespace, "--output", "json"] ++
    flagArguments "--create-namespace" request.createNamespace ++
    optionArguments "--version" request.version ++ optionArguments "--repo" request.repo ++
    valueArguments request.values

/-- The arguments of an upgrade. -/
def upgradeArguments (request : UpgradeRequest) : List String :=
  ["upgrade", request.name, request.chart, "--namespace", request.namespace, "--output", "json"] ++
    flagArguments "--reuse-values" request.reuseValues ++
    optionArguments "--version" request.version ++ optionArguments "--repo" request.repo ++
    valueArguments request.values

/-- Output as JSON. -/
def readJson (output : String) : Except ReleaseError Json :=
  match Json.parse? output with
  | some value => .ok value
  | none => .error (.undecodable "")

/-- Output as a release. -/
def readRelease (output : String) : Except ReleaseError ReleaseRevision := do
  ReleaseRevision.ofDocument (← readJson output)

/-- Output as rows. -/
def readRows (what output : String) : Except ReleaseError (List Json) := do
  match ← readJson output with
  | .array rows => return rows
  | _ => throw (.unexpected (what ++ " output is not an array"))

/-- Install a release. -/
def install (request : InstallRequest) : Command ReleaseRevision :=
  ⟨installArguments request, readRelease⟩

/-- Make a further revision of a release. -/
def upgrade (request : UpgradeRequest) : Command ReleaseRevision :=
  ⟨upgradeArguments request, readRelease⟩

/-- Remove a release. -/
def uninstall («namespace» name : String) : Command Unit :=
  ⟨["uninstall", name, "--namespace", «namespace»], fun _ => .ok ()⟩

/-- Return a release to an earlier revision. -/
def rollback («namespace» name : String) (revision : Int64) : Command Unit :=
  ⟨["rollback", name, Text.signedDecimal revision.toInt, "--namespace", «namespace»],
    fun _ => .ok ()⟩

/-- Read the last revision of a release. -/
def status («namespace» name : String) : Command ReleaseRevision :=
  ⟨["status", name, "--namespace", «namespace», "--output", "json"], readRelease⟩

/-- List releases. -/
def list («namespace» selector : Option String) : Command (List ReleaseRevision) where
  arguments := ["list", "--all", "--output", "json"] ++
    (match «namespace» with
      | some wanted => ["--namespace", wanted]
      | none => ["--all-namespaces"]) ++
    optionArguments "--selector" selector
  read output := (readRows "list" output).map (List.map ReleaseRevision.ofListRow)

/-- Read all revisions of a release, in the order of their numbers. -/
def history («namespace» name : String) : Command (List ReleaseRevision) where
  arguments := ["history", name, "--namespace", «namespace», "--output", "json"]
  read output := (readRows "history" output).map fun rows =>
    (rows.map (ReleaseRevision.ofHistoryRow name «namespace»)).mergeSort
      fun a b => a.revision ≤ b.revision

/-- Ask for the version of the program. -/
def version : Command String :=
  ⟨["version", "--short"], fun output => .ok (Text.trim output)⟩

end Command

/-- The program, and the context of the cluster it is run for. -/
structure CommandLine where
  binary : String
  context : Option String

/-- The arguments of a run for a context. -/
def CommandLine.arguments {α : Type} (cli : CommandLine) (command : Command α) : List String :=
  command.arguments ++ Command.optionArguments "--kube-context" cli.context

/-- The most bytes of an argument. -/
def maxArgumentBytes : Nat := 131071

/-- A text can be handed over as an argument: no NUL character ends it early, and it is not too
long. -/
def isArgument (s : String) : Bool :=
  s.utf8ByteSize ≤ maxArgumentBytes && !s.toList.contains '\x00'

/-- A run can be started for a command. -/
def CommandLine.canRun {α : Type} (cli : CommandLine) (command : Command α) : Bool :=
  (cli.arguments command).all isArgument

end DeploymentGateway.Release
