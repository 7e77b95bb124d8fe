import DeploymentGateway.Proofs.Footprint.Release
import DeploymentGateway.Proofs.Program.Trace
import DeploymentGateway.Proofs.Refusal.Release
import DeploymentGateway.Proofs.Rules
import DeploymentGateway.Release.CommandLine
/-!
How the release manager's program reads the arguments it is run with. It reads them from left to right: some
options take the argument after them, and every other text with a hyphen in front is a flag. The texts of a
request stand where they are read as meant, behind an option or as a name that has no hyphen in front; only
the chart is neither, so a chart with a hyphen in front is read as something else.
-/

set_option autoImplicit false

namespace DeploymentGateway.Release

/-! The reader. -/

/-- An argument as the program takes it. -/
inductive Argument where
  | positional (text : String)
  | option (name value : String)
  | flag (text : String)
  deriving DecidableEq

/-- A text has a hyphen in front. -/
def Dashed (text : String) : Prop :=
  text.toList.head? = some '-'

instance (text : String) : Decidable (Dashed text) :=
  inferInstanceAs (Decidable (_ = _))

/-- The options that take the argument after them. -/
def valueOptions : List String :=
  ["--namespace", "--output", "--version", "--repo", "--set-json"]

/-- An argument that stands for itself. -/
def Argument.alone (text : String) : Argument :=
  if Dashed text then .flag text else .positional text

def readArguments : List String → List Argument
  | [] => []
  | [text] => [.alone text]
  | text :: value :: rest =>
    if text ∈ valueOptions then .option text value :: readArguments rest
    else .alone text :: readArguments (value :: rest)

def positionals (arguments : List Argument) : List String :=
  arguments.filterMap fun
    | .positional text => some text
    | .option _ _ => none
    | .flag _ => none

theorem dashed_of_mem_valueOptions : ∀ name ∈ valueOptions, Dashed name := by
  decide

theorem readArguments_option {name : String} (known : name ∈ valueOptions) (value : String)
    (rest : List String) :
    readArguments (name :: value :: rest) = .option name value :: readArguments rest := by
  rw [readArguments, if_pos known]

theorem readArguments_alone {text : String} (other : text ∉ valueOptions) (rest : List String) :
    readArguments (text :: rest) = .alone text :: readArguments rest := by
  cases rest with
  | nil => rfl
  | cons value rest => rw [readArguments, if_neg other]

theorem readArguments_positional {text : String} (plain : ¬ Dashed text) (rest : List String) :
    readArguments (text :: rest) = .positional text :: readArguments rest := by
  have other : text ∉ valueOptions := fun known => plain (dashed_of_mem_valueOptions text known)
  rw [readArguments_alone other, Argument.alone, if_neg plain]

private theorem alone_eq_positional_iff {text other : String} :
    Argument.alone other = .positional text ↔ ¬ Dashed other ∧ other = text := by
  by_cases dashed : Dashed other <;> simp [Argument.alone, dashed]

/-- No text with a hyphen in front is read as a positional argument. -/
theorem not_positional_of_dashed {text : String} (dashed : Dashed text) (arguments : List String) :
    .positional text ∉ readArguments arguments := by
  have unread : ∀ other, Argument.positional text ≠ .alone other := by
    intro other same
    obtain ⟨plain, rfl⟩ := alone_eq_positional_iff.mp same.symm
    exact plain dashed
  -- Along the reader: an option hides the argument after it, so only arguments that stand alone count.
  fun_induction readArguments arguments with
  | case1 => exact List.not_mem_nil
  | case2 other => simpa using unread other
  | case3 name value rest known ih => simpa using ih
  | case4 other value rest _ ih => exact List.not_mem_cons_of_ne_of_not_mem (unread other) ih

theorem mem_positionals_iff {text : String} {arguments : List Argument} :
    text ∈ positionals arguments ↔ .positional text ∈ arguments := by
  rw [positionals, List.mem_filterMap]
  constructor
  · rintro ⟨argument, mem, same⟩
    cases argument with
    | positional other =>
      cases same
      exact mem
    | option _ _ | flag _ => cases same
  · exact fun mem => ⟨_, mem, rfl⟩

theorem positionals_append (arguments more : List Argument) :
    positionals (arguments ++ more) = positionals arguments ++ positionals more :=
  List.filterMap_append

theorem positionals_options {α : Type} (name value : α → String) (items : List α) :
    positionals (items.map fun item => .option (name item) (value item)) = [] := by
  induction items with
  | nil => rfl
  | cons item rest ih => exact ih

/-! What is said of a release. -/

inductive Verb where
  | install
  | upgrade

def Verb.word : Verb → String
  | install => "install"
  | upgrade => "upgrade"

/-- The flag that an installation or an upgrade may have. -/
def Verb.flag : Verb → String
  | install => "--create-namespace"
  | upgrade => "--reuse-values"

/-- What an installation and an upgrade say of a release. -/
structure Invocation where
  verb : Verb
  name : String
  chart : String
  «namespace» : String
  flagged : Bool
  version : Option String
  repo : Option String
  values : Extensions

def InstallRequest.invocation (request : InstallRequest) : Invocation where
  verb := .install
  name := request.name
  chart := request.chart
  «namespace» := request.namespace
  flagged := request.createNamespace
  version := request.version
  repo := request.repo
  values := request.values

def UpgradeRequest.invocation (request : UpgradeRequest) : Invocation where
  verb := .upgrade
  name := request.name
  chart := request.chart
  «namespace» := request.namespace
  flagged := request.reuseValues
  version := request.version
  repo := request.repo
  values := request.values

namespace Invocation

variable (invocation : Invocation)

def arguments : List String :=
  [invocation.verb.word, invocation.name, invocation.chart, "--namespace", invocation.namespace,
    "--output", "json"] ++
    Command.flagArguments invocation.verb.flag invocation.flagged ++
    Command.optionArguments "--version" invocation.version ++
    Command.optionArguments "--repo" invocation.repo ++ Command.valueArguments invocation.values

/-- How the arguments are meant: three are positional, and every other text is the value of an option. -/
def meaning : List Argument :=
  [.positional invocation.verb.word, .positional invocation.name, .positional invocation.chart,
    .option "--namespace" invocation.namespace, .option "--output" "json"] ++
    (if invocation.flagged then [.flag invocation.verb.flag] else []) ++
    invocation.version.toList.map (.option "--version") ++
    invocation.repo.toList.map (.option "--repo") ++
    invocation.values.toList.map fun (name, value) => .option "--set-json" (name ++ "=" ++ value.render)

end Invocation

theorem InstallRequest.arguments_invocation (request : InstallRequest) :
    request.invocation.arguments = (Command.install request).arguments :=
  rfl

theorem UpgradeRequest.arguments_invocation (request : UpgradeRequest) :
    request.invocation.arguments = (Command.upgrade request).arguments :=
  rfl

/-! The optional parts of the arguments. -/

theorem readArguments_flagArguments (verb : Verb) (isSet : Bool) (rest : List String) :
    readArguments (Command.flagArguments verb.flag isSet ++ rest) =
      (if isSet then [.flag verb.flag] else []) ++ readArguments rest := by
  have other : verb.flag ∉ valueOptions := by cases verb <;> decide
  have dashed : Dashed verb.flag := by cases verb <;> decide
  cases isSet with
  | false => rfl
  | true =>
    change readArguments (verb.flag :: rest) = .flag verb.flag :: readArguments rest
    rw [readArguments_alone other, Argument.alone, if_pos dashed]

theorem readArguments_optionArguments {name : String} (known : name ∈ valueOptions)
    (value : Option String) (rest : List String) :
    readArguments (Command.optionArguments name value ++ rest) =
      value.toList.map (.option name) ++ readArguments rest := by
  cases value with
  | none => rfl
  | some text => exact readArguments_option known text rest

theorem readArguments_valueArguments (values : Extensions) :
    readArguments (Command.valueArguments values) =
      values.toList.map fun (name, value) => .option "--set-json" (name ++ "=" ++ value.render) := by
  unfold Command.valueArguments
  induction values.toList with
  | nil => rfl
  | cons entry rest ih =>
    rw [List.flatMap_cons, List.map_cons, ← ih]
    exact readArguments_option (by decide) _ _

/-! What the program makes of the arguments. -/

/-- Under a condition, and only then, arguments are read as they are meant, and what is positional in them is the
word of the command, the name of the release and its chart. -/
structure ReadsIff (arguments : List String) (invocation : Invocation) (plain : Prop) : Prop where
  meaning : readArguments arguments = invocation.meaning ↔ plain
  positional : positionals (readArguments arguments) =
    [invocation.verb.word, invocation.name, invocation.chart] ↔ plain

theorem ReadsIff.congr {arguments : List String} {invocation : Invocation} {plain plain' : Prop}
    (reads : ReadsIff arguments invocation plain) (same : plain ↔ plain') :
    ReadsIff arguments invocation plain' :=
  ⟨reads.meaning.trans same, reads.positional.trans same⟩

namespace Invocation

variable {invocation : Invocation}

theorem readArguments_arguments (name : ¬ Dashed invocation.name) (chart : ¬ Dashed invocation.chart) :
    readArguments invocation.arguments = invocation.meaning := by
  have word : ¬ Dashed invocation.verb.word := by
    cases invocation.verb <;> decide
  unfold arguments meaning
  simp only [List.append_assoc, List.cons_append, List.nil_append]
  rw [readArguments_positional word, readArguments_positional name, readArguments_positional chart,
    readArguments_option (by decide), readArguments_option (by decide), readArguments_flagArguments,
    readArguments_optionArguments (by decide), readArguments_optionArguments (by decide),
    readArguments_valueArguments]

theorem positionals_meaning (invocation : Invocation) :
    positionals invocation.meaning = [invocation.verb.word, invocation.name, invocation.chart] := by
  have flag : positionals (if invocation.flagged then [.flag invocation.verb.flag] else []) = [] := by
    split <;> rfl
  have option : ∀ (name : String) (value : Option String),
      positionals (value.toList.map (.option name)) = [] :=
    fun name value => positionals_options (fun _ => name) (fun text => text) value.toList
  rw [meaning]
  simp only [positionals_append, positionals_options, flag, option, List.append_nil]
  rfl

/-- Neither the name nor the chart may have a hyphen in front, and nothing else matters. -/
theorem readsIff (invocation : Invocation) :
    ReadsIff invocation.arguments invocation
      (¬ Dashed invocation.name ∧ ¬ Dashed invocation.chart) := by
  -- A dashed text is never positional, so three positional texts of which one is dashed are not read.
  have plain : positionals (readArguments invocation.arguments) =
      [invocation.verb.word, invocation.name, invocation.chart] →
      ¬ Dashed invocation.name ∧ ¬ Dashed invocation.chart := by
    intro positional
    have undashed : ∀ text ∈ [invocation.verb.word, invocation.name, invocation.chart],
        ¬ Dashed text := by
      intro text mem dashed
      rw [← positional, mem_positionals_iff] at mem
      exact not_positional_of_dashed dashed _ mem
    exact ⟨undashed _ (by simp), undashed _ (by simp)⟩
  constructor
  · refine ⟨fun meant => plain ?_, fun undashed => readArguments_arguments undashed.1 undashed.2⟩
    rw [meant, positionals_meaning]
  · refine ⟨plain, fun undashed => ?_⟩
    rw [readArguments_arguments undashed.1 undashed.2, positionals_meaning]

end Invocation

namespace OnManager

open Rules

/-! What operations send. -/

/-- A text that a caller gives is used. -/
def Uses (extensions : Extensions) (key : String) (used : Option String) : Prop :=
  ∀ text, optionalText extensions key = .ok (some text) → used = some text

/-- An installation says what was asked for. -/
structure InstallsRequest (request : DeploymentRequest) (sent : InstallRequest) : Prop where
  name : sent.name = request.name
  isName : IsName request.name
  «namespace» : sent.namespace = request.namespace
  chart : Uses request.extensions "chart" (some sent.chart)
  version : Uses request.extensions "version" sent.version
  repo : Uses request.extensions "repo" sent.repo
  values : sent.values = request.values

/-- An upgrade says what was asked for, of the release that was found. -/
structure UpgradesRelease (update : DeploymentUpdate) (found : ReleaseRevision) (sent : UpgradeRequest) :
    Prop where
  name : sent.name = found.name
  «namespace» : sent.namespace = found.namespace
  chart : Uses update.extensions "chart" (some sent.chart)
  version : Uses update.extensions "version" sent.version
  repo : Uses update.extensions "repo" sent.repo
  values : sent.values = update.values

variable {now : Time.Instant} {exchanges : List AnsweredCall}

/-- What is given is used. -/
def Overrides (given used : Option String) : Prop :=
  ∀ text, given = some text → used = some text

private theorem overrides_self (given : Option String) : Overrides given given :=
  fun _ same => same

private theorem overrides_getD (given : Option String) (other : String) :
    Overrides given (some (given.getD other)) := by
  rintro text rfl
  rfl

private theorem overrides_or (given other : Option String) : Overrides given (given.or other) := by
  rintro text rfl
  rfl

private theorem uses_of_ok {extensions : Extensions} {key : String} {given used : Option String}
    (checked : optionalText extensions key = .ok given) (overrides : Overrides given used) :
    Uses extensions key used := by
  intro text asked
  rw [checked] at asked
  exact overrides text (Except.ok.inj asked)

private theorem ok_of_trace {α : Type} {outcome : Outcome α} {a : α}
    (trace : (Program.ofOutcome outcome).Trace exchanges (.ok a)) : outcome = .ok a :=
  (Program.trace_done_iff.mp trace).2.symm

/-- Where nothing after a call changes the releases, a change of the releases is that call. -/
private theorem eq_of_call {α : Type} {made sent : Call} {reply : sent.Reply} {next : made.Reply → Program α}
    (spares : ∀ reply, (next reply).SparesReleases) {outcome : Outcome α}
    (trace : (Program.perform made >>= next).Trace exchanges outcome) (mem : ⟨sent, reply⟩ ∈ exchanges)
    (moves : sent.movesReleases = true) : sent = made := by
  obtain ⟨answer, rest, rfl, after⟩ := Program.trace_call_iff.mp trace
  rcases List.mem_cons.mp mem with same | later
  · exact congrArg Sigma.fst same
  · have spared := (spares answer).movesReleases_of_trace after _ later
    exact absurd (spared.symm.trans moves) Bool.false_ne_true

/-- What comes after the call is to keep the record and to tell of the release. -/
private theorem sparesReleases_record (reply : Except ReleaseError ReleaseRevision)
    (failure : ReleaseError → Failure) (source : ChartSource) :
    (Program.expect reply failure >>= fun revision => do
      remember revision source
      return toDeployment now revision).SparesReleases := by
  refine Program.sparesReleases_bind (by cases reply <;> trivial) fun revision => ?_
  exact Program.sparesReleases_bind (sparesReleases_remember revision source) fun _ => trivial

private theorem requestedSource_uses {request : DeploymentRequest} {version repo : Option String}
    {source : ChartSource} {used : Option String}
    (trace : (requestedSource request version repo).Trace exchanges (.ok (source, used))) :
    Uses request.extensions "chart" (some source.reference) ∧ Overrides version used ∧
      Overrides repo source.repo := by
  obtain ⟨chart, _, _, checked, rest, rfl⟩ := Program.trace_bind_ok_iff.mp trace
  have given := ok_of_trace checked
  split at rest
  · obtain ⟨⟨found, recorded⟩, _, _, -, ended, rfl⟩ := Program.trace_bind_ok_iff.mp rest
    cases (Program.trace_done_iff.mp ended).2
    exact ⟨uses_of_ok given nofun, overrides_getD version recorded, overrides_or repo found.repo⟩
  · obtain ⟨reference, _, _, required, ended, rfl⟩ := Program.trace_bind_ok_iff.mp rest
    cases (Program.trace_done_iff.mp ended).2
    have there := optionalText_of_requiredText (ok_of_trace required)
    exact ⟨uses_of_ok there (overrides_self _), overrides_self version, overrides_self repo⟩

theorem installsRequest_of_trace {request : DeploymentRequest} {outcome : Outcome Deployment}
    (trace : (createDeployment now request).Trace exchanges outcome) {sent : InstallRequest}
    {reply : Call.Reply (.install sent)} (mem : ⟨.install sent, reply⟩ ∈ exchanges) :
    InstallsRequest request sent := by
  have mutates : Call.mutates (.install sent) = true := rfl
  unfold createDeployment at trace
  -- An installation is a change, so everything before it that only reads or checks has passed.
  obtain ⟨_, _, _, -, trace, -, mem⟩ := Program.ReadOnly.change_after (by simp) trace mem mutates
  obtain ⟨_, named, trace⟩ := Program.passed_of_sent trace mem
  obtain ⟨_, -, trace⟩ := Program.passed_of_sent trace mem
  obtain ⟨version, versioned, trace⟩ := Program.passed_of_sent trace mem
  obtain ⟨repo, housed, trace⟩ := Program.passed_of_sent trace mem
  obtain ⟨⟨source, used⟩, _, _, sourced, trace, -, mem⟩ :=
    (readOnly_requestedSource request version repo).change_after trace mem mutates
  obtain ⟨_, _, _, -, trace, -, mem⟩ := Program.ReadOnly.change_after (by simp) trace mem mutates
  have same := eq_of_call (fun reply => ?spares) trace mem rfl
  case spares => exact sparesReleases_record reply _ source
  cases same
  obtain ⟨chart, version_used, repo_used⟩ := requestedSource_uses sourced
  exact ⟨rfl, checkName_ok_iff.mp named, rfl, chart,
    uses_of_ok versioned version_used, uses_of_ok housed repo_used, rfl⟩

private theorem status_of_current {operation id : String} {found : ReleaseRevision}
    (trace : (current operation id).Trace exchanges (.ok found)) :
    ∃ home, ⟨.releaseStatus home id, .ok found⟩ ∈ exchanges := by
  obtain ⟨home, located, _, -, located_rest, rfl⟩ := Program.trace_bind_ok_iff.mp trace
  obtain ⟨_, connected, _, -, rest, rfl⟩ := Program.trace_bind_ok_iff.mp located_rest
  obtain ⟨reply, last, rfl, ended⟩ := Program.trace_call_iff.mp rest
  rcases reply with error | revision
  · exact nomatch (Program.trace_done_iff.mp ended).2
  · have same := (Program.trace_done_iff.mp ended).2
    cases same
    exact ⟨home, by simp⟩

private theorem updatedSource_uses {revision : ReleaseRevision} {id : String} {update : DeploymentUpdate}
    {chart version repo : Option String} {source : ChartSource} {used : Option String}
    (trace : (updatedSource revision id update chart version repo).Trace exchanges (.ok (source, used))) :
    Overrides chart (some source.reference) ∧ Overrides version used ∧ Overrides repo source.repo := by
  unfold updatedSource at trace
  split at trace
  · cases (Program.trace_done_iff.mp trace).2
    exact ⟨overrides_self _, overrides_self version, overrides_self repo⟩
  · obtain ⟨⟨found, recorded⟩, _, _, -, ended, rfl⟩ := Program.trace_bind_ok_iff.mp trace
    cases (Program.trace_done_iff.mp ended).2
    exact ⟨nofun, overrides_getD version recorded, overrides_or repo found.repo⟩
  · obtain ⟨found, _, _, -, ended, rfl⟩ := Program.trace_bind_ok_iff.mp trace
    rcases found with _ | found
    · exact nomatch (Program.trace_done_iff.mp ended).2
    · cases (Program.trace_done_iff.mp ended).2
      exact ⟨nofun, overrides_getD version revision.chartVersion, overrides_or repo found.repo⟩

theorem upgradesRelease_of_trace {id : String} {update : DeploymentUpdate} {outcome : Outcome Deployment}
    (trace : (updateDeployment now id update).Trace exchanges outcome) {sent : UpgradeRequest}
    {reply : Call.Reply (.upgrade sent)} (mem : ⟨.upgrade sent, reply⟩ ∈ exchanges) :
    ∃ home found, ⟨.releaseStatus home id, .ok found⟩ ∈ exchanges ∧ UpgradesRelease update found sent := by
  have mutates : Call.mutates (.upgrade sent) = true := rfl
  unfold updateDeployment at trace
  obtain ⟨_, _, _, -, trace, asked, mem⟩ := Program.ReadOnly.change_after (by simp) trace mem mutates
  obtain ⟨chart, charted, trace⟩ := Program.passed_of_sent trace mem
  obtain ⟨version, versioned, trace⟩ := Program.passed_of_sent trace mem
  obtain ⟨repo, housed, trace⟩ := Program.passed_of_sent trace mem
  obtain ⟨found, _, _, read, trace, later, mem⟩ := (readOnly_current _ id).change_after trace mem mutates
  obtain ⟨⟨source, used⟩, _, _, sourced, trace, -, mem⟩ :=
    (readOnly_updatedSource found id update chart version repo).change_after trace mem mutates
  obtain ⟨_, _, _, -, trace, -, mem⟩ := Program.ReadOnly.change_after (by simp) trace mem mutates
  have same := eq_of_call (fun reply => ?spares) trace mem rfl
  case spares => exact sparesReleases_record reply _ source
  cases same
  obtain ⟨home, answered⟩ := status_of_current read
  obtain ⟨chart_used, version_used, repo_used⟩ := updatedSource_uses sourced
  refine ⟨home, found, ?_, rfl, rfl, uses_of_ok charted chart_used, uses_of_ok versioned version_used,
    uses_of_ok housed repo_used, rfl⟩
  rw [asked, later]
  simp [answered]

/-- The arguments for a new release are read as they are meant exactly if its chart has no hyphen in front, and
those for an upgrade exactly if neither the chart has one nor the name of the release that was found. -/
theorem arguments_read_iff (now : Time.Instant) :
    (∀ request exchanges outcome, (createDeployment now request).Trace exchanges outcome →
      ∀ sent reply, ⟨.install sent, reply⟩ ∈ exchanges →
        InstallsRequest request sent ∧
          ReadsIff (Command.install sent).arguments sent.invocation (¬ Dashed sent.chart)) ∧
    ∀ id update exchanges outcome, (updateDeployment now id update).Trace exchanges outcome →
      ∀ sent reply, ⟨.upgrade sent, reply⟩ ∈ exchanges →
        ∃ home found, ⟨.releaseStatus home id, .ok found⟩ ∈ exchanges ∧
          UpgradesRelease update found sent ∧
            ReadsIff (Command.upgrade sent).arguments sent.invocation
              (¬ Dashed found.name ∧ ¬ Dashed sent.chart) := by
  constructor
  · intro request exchanges outcome trace sent reply mem
    have asked := installsRequest_of_trace trace mem
    have name : ¬ Dashed sent.invocation.name := by
      change ¬ Dashed sent.name
      rw [asked.name]
      exact asked.isName.start
    have reads := sent.invocation.readsIff
    rw [sent.arguments_invocation] at reads
    exact ⟨asked, reads.congr (and_iff_right name)⟩
  · intro id update exchanges outcome trace sent reply mem
    obtain ⟨home, found, answered, asked⟩ := upgradesRelease_of_trace trace mem
    have name : sent.invocation.name = found.name := asked.name
    have reads := sent.invocation.readsIff
    rw [sent.arguments_invocation, name] at reads
    exact ⟨home, found, answered, asked, reads⟩

private def webRelease : ReleaseRevision where
  name := "web"
  «namespace» := "prod"
  revision := 1
  chart := "nginx"
  chartVersion := "1.0.0"
  appVersion := ""
  status := .deployed
  firstDeployed := none
  lastDeployed := none
  description := ""
  config := .empty

private def chartRequest (extensions : Extensions) : DeploymentRequest where
  name := "web"
  «namespace» := "prod"
  packageId := none
  values := SortedMap.empty.insert "--replicas" (.ofInt 2)
  labels := .empty
  extensions := extensions

private def chartInstall (chart : String) (version repo : Option String) : InstallRequest where
  name := "web"
  «namespace» := "prod"
  chart := chart
  version := version
  repo := repo
  values := SortedMap.empty.insert "--replicas" (.ofInt 2)
  createNamespace := true

/-- The exchanges of an installation of which no record can be kept. -/
def installation (sent : InstallRequest) (made : ReleaseRevision) : List AnsweredCall :=
  [⟨.checkpoint, .ok ()⟩, ⟨.connect .releases, .ok ()⟩, ⟨.install sent, .ok made⟩,
    ⟨.connect .cluster, .error .cancelled⟩]

/-- Every request with proper names and a chart is sent on, however the chart begins. -/
theorem trace_installation {request : DeploymentRequest} (name : IsName request.name)
    (home : IsName request.namespace) {chart : String} {version repo : Option String}
    (given : requiredText request.extensions "chart" = .ok chart)
    (versioned : optionalText request.extensions "version" = .ok version)
    (housed : optionalText request.extensions "repo" = .ok repo) (made : ReleaseRevision) :
    (createDeployment now request).Trace
      (installation ⟨request.name, request.namespace, chart, version, repo, request.values, true⟩ made)
      (.ok (toDeployment now made)) := by
  have named : checkName "name" request.name = .ok () := checkName_ok_iff.mpr name
  have homed : checkName "namespace" request.namespace = .ok () := checkName_ok_iff.mpr home
  have asked := optionalText_of_requiredText given
  simp only [createDeployment, requestedSource, named, homed, versioned, housed, asked, given]
  exact .call _ (.call _ (.call _ (.call _ (.done _))))

private theorem isName_web : IsName "web" :=
  checkName_ok_iff.mp (show checkName "name" "web" = .ok () from rfl)

private theorem isName_prod : IsName "prod" :=
  checkName_ok_iff.mp (show checkName "name" "prod" = .ok () from rfl)

/-- Hyphens in front of a version, a repository and the name of a value do no harm. -/
theorem arguments_read_iff_dashed :
    let request := chartRequest (((SortedMap.empty.insert "chart" (.string "nginx")).insert "version"
      (.string "-1")).insert "repo" (.string "--debug"))
    let sent := chartInstall "nginx" (some "-1") (some "--debug")
    (createDeployment ⟨0, 0⟩ request).Trace (installation sent webRelease)
        (.ok (toDeployment ⟨0, 0⟩ webRelease)) ∧
      ⟨.install sent, .ok webRelease⟩ ∈ installation sent webRelease ∧
      readArguments (Command.install sent).arguments = sent.invocation.meaning := by
  intro request sent
  have trace : (createDeployment ⟨0, 0⟩ request).Trace (installation sent webRelease)
      (.ok (toDeployment ⟨0, 0⟩ webRelease)) :=
    trace_installation isName_web isName_prod rfl rfl rfl webRelease
  have mem : ⟨.install sent, .ok webRelease⟩ ∈ installation sent webRelease := by
    simp [installation]
  have plain : ¬ Dashed sent.chart := by decide
  obtain ⟨-, reads⟩ := (arguments_read_iff ⟨0, 0⟩).1 request _ _ trace sent _ mem
  exact ⟨trace, mem, reads.meaning.mpr plain⟩

/-- A chart with hyphens in front is no positional argument, which leaves the name of the release in the place of
the chart. -/
theorem chart_read_as_flag :
    let request := chartRequest (SortedMap.empty.insert "chart" (.string "--generate-name"))
    let sent := chartInstall "--generate-name" none none
    (createDeployment ⟨0, 0⟩ request).Trace (installation sent webRelease)
        (.ok (toDeployment ⟨0, 0⟩ webRelease)) ∧
      ⟨.install sent, .ok webRelease⟩ ∈ installation sent webRelease ∧
      positionals (readArguments (Command.install sent).arguments) = ["install", "web"] ∧
      .flag "--generate-name" ∈ readArguments (Command.install sent).arguments := by
  intro request sent
  refine ⟨trace_installation isName_web isName_prod rfl rfl rfl webRelease, ?_, ?_, ?_⟩
  · simp [installation]
  · decide
  · decide

end OnManager

end DeploymentGateway.Release
