import DeploymentGateway.Json.Path
import DeploymentGateway.Release.Basic
import DeploymentGateway.Text.Split
import DeploymentGateway.Time.Reader
/-!
Releases as the release manager prints them: whole documents, rows of a listing, and rows of a
history. A row names the chart together with its version, so the two have to be told apart.
-/

set_option autoImplicit false

namespace DeploymentGateway.Release

/-- The name and the version of a chart that a row writes with a hyphen between them. The version
begins with a digit; without one there is only a name. -/
def splitChartList : List Char → List Char × List Char
  | [] => ([], [])
  | '-' :: d :: rest =>
    if d.isDigit then ([], d :: rest)
    else
      let (name, version) := splitChartList (d :: rest)
      ('-' :: name, version)
  | c :: rest =>
    let (name, version) := splitChartList rest
    (c :: name, version)

/-- The name and the version of a chart as texts. -/
def splitChart (chart : String) : String × String :=
  let (name, version) := splitChartList chart.toList
  (String.ofList name, String.ofList version)

namespace ReleaseRevision

/-- The number at a path, zero where there is none. -/
def numberAt (value : Json) (path : Json.Path) : Int64 :=
  Int64.ofInt ((value.intAt path).getD 0)

/-- The time at a path. -/
def printedTimeAt (value : Json) (path : Json.Path) : Option Time.Instant :=
  (value.string?At path).bind Time.readRelease?

/-- The release in a document. -/
def ofDocument (doc : Json) : Except ReleaseError ReleaseRevision :=
  let name := doc.stringAt ["name"]
  if name.isEmpty then .error (.unexpected "release without a name")
  else .ok {
    name
    «namespace» := doc.stringAt ["namespace"]
    revision := numberAt doc ["version"]
    chart := doc.stringAt ["chart", "metadata", "name"]
    chartVersion := doc.stringAt ["chart", "metadata", "version"]
    appVersion := doc.stringAt ["chart", "metadata", "appVersion"]
    status := .ofWord (doc.stringAt ["info", "status"])
    firstDeployed := printedTimeAt doc ["info", "first_deployed"]
    lastDeployed := printedTimeAt doc ["info", "last_deployed"]
    description := doc.stringAt ["info", "description"]
    config := .ofList (((doc.lookup ["config"]).bind Json.object?).getD []) }

/-- The release in a row of a listing, which has no description and no values. -/
def ofListRow (row : Json) : ReleaseRevision :=
  let (chart, chartVersion) := splitChart (row.stringAt ["chart"])
  { name := row.stringAt ["name"]
    «namespace» := row.stringAt ["namespace"]
    revision := numberAt row ["revision"]
    chart
    chartVersion
    appVersion := row.stringAt ["app_version"]
    status := .ofWord (row.stringAt ["status"])
    firstDeployed := none
    lastDeployed := printedTimeAt row ["updated"]
    description := ""
    config := .empty }

/-- The revision in a row of the history of a release. -/
def ofHistoryRow (name «namespace» : String) (row : Json) : ReleaseRevision :=
  { ofListRow row with name, «namespace», description := row.stringAt ["description"] }

end ReleaseRevision

end DeploymentGateway.Release
