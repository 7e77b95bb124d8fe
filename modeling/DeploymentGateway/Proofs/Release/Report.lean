import DeploymentGateway.Proofs.Listing
import DeploymentGateway.Proofs.Program.Start
import DeploymentGateway.Proofs.Rules
import DeploymentGateway.Release.Document
import DeploymentGateway.Release.OnManager
/-!
Charts as the release manager reports them. Its documents have the name and the version of a chart apart, its rows
have them joined by a hyphen. A row is read up to the first hyphen before a digit, so it is read as the chart it
was written for just if the name of the chart has no such hyphen in it.
-/

set_option autoImplicit false

namespace DeploymentGateway.Release

/-! Versions. -/

/-- A part of a version between its dots: letters, digits and hyphens. -/
def IsIdentifier (part : String) : Prop :=
  part ≠ "" ∧ ∀ c ∈ part.toList, c.isAlphanum = true ∨ c = '-'

/-- A part of what a version is a release before: a number of such a part has no leading zeros. -/
def IsPrereleasePart (part : String) : Prop :=
  IsIdentifier part ∧
    ((∀ c ∈ part.toList, c.isDigit = true) → part = "0" ∨ part.toList.head? ≠ some '0')

/-- A semantic version: three numbers, what it is a release before, and how it was built. -/
structure SemVer where
  major : Nat
  minor : Nat
  patch : Nat
  prerelease : List String
  build : List String
  prerelease_valid : ∀ part ∈ prerelease, IsPrereleasePart part
  build_valid : ∀ part ∈ build, IsIdentifier part

namespace SemVer

/-- The parts after a mark, where there are any. -/
def suffix (mark : String) (parts : List String) : String :=
  if parts.isEmpty then "" else mark ++ Text.joinWith "." parts

/-- A version as it is written. -/
def text (version : SemVer) : String :=
  Text.decimal version.major ++ "." ++ Text.decimal version.minor ++ "." ++
    Text.decimal version.patch ++ suffix "-" version.prerelease ++ suffix "+" version.build

theorem text_toList (version : SemVer) :
    ∃ d rest, version.text.toList = d :: rest ∧ d.isDigit = true := by
  rcases digits : Nat.toDigits 10 version.major with _ | ⟨d, rest⟩
  · exact absurd digits Nat.toDigits_ne_nil
  · have digit : d.isDigit = true := by
      refine Nat.isDigit_of_mem_toDigits (n := version.major) (by decide) (Nat.le_refl 10) ?_
      rw [digits]
      exact List.mem_cons_self
    refine ⟨d, version.text.toList.tail, ?_, digit⟩
    simp [text, Text.decimal, digits]

end SemVer

/-! Rows. -/

/-- No hyphen stands before a digit, so nothing in a text looks like the beginning of a version. -/
def Unmarked (s : List Char) : Prop :=
  ∀ d : Char, d.isDigit = true → ¬ ['-', d] <:+: s

/-- A version begins after a character: that is a hyphen, and a digit follows. -/
def Precedes (c : Char) (s : List Char) : Prop :=
  c = '-' ∧ s.head?.any Char.isDigit = true

instance (c : Char) (s : List Char) : Decidable (Precedes c s) :=
  inferInstanceAs (Decidable (_ ∧ _))

theorem unmarked_cons_iff {c : Char} {s : List Char} :
    Unmarked (c :: s) ↔ ¬ Precedes c s ∧ Unmarked s := by
  have front (d : Char) : ['-', d] <+: c :: s ↔ c = '-' ∧ s.head? = some d := by
    cases s <;> simp [List.cons_prefix_cons, eq_comm]
  have precedes : Precedes c s ↔ ∃ d : Char, d.isDigit = true ∧ ['-', d] <+: c :: s := by
    simp only [front, Precedes, Option.any_eq_true]
    grind
  simp only [Unmarked, List.infix_cons_iff, precedes]
  grind

theorem splitChartList_cons (c : Char) (s : List Char) : splitChartList (c :: s) =
    if Precedes c s then ([], s) else (c :: (splitChartList s).1, (splitChartList s).2) := by
  rcases s with _ | ⟨d, s⟩
  · simp [splitChartList, Precedes]
  · by_cases hyphen : c = '-'
    · subst hyphen
      simp [splitChartList, Precedes]
    · rw [if_neg fun precedes => hyphen precedes.1, splitChartList]
      simpa using fun same => absurd same hyphen

theorem splitChartList_unmarked {name : List Char} (unmarked : Unmarked name) {d : Char}
    (digit : d.isDigit = true) (rest : List Char) :
    splitChartList (name ++ '-' :: d :: rest) = (name, d :: rest) := by
  induction name with
  | nil => simp [splitChartList, digit]
  | cons c name ih =>
    obtain ⟨plain, unmarked⟩ := unmarked_cons_iff.mp unmarked
    have still : ¬ Precedes c (name ++ '-' :: d :: rest) := by
      cases name with
      | nil => simp [Precedes]
      | cons e name => exact plain
    rw [List.cons_append, splitChartList_cons, if_neg still, ih unmarked]

/-- A hyphen before a digit is where a row is divided, if not before. -/
theorem length_splitChartList {name : List Char} (marked : ¬ Unmarked name) (rest : List Char) :
    (splitChartList (name ++ rest)).1.length < name.length := by
  induction name with
  | nil => exact absurd (fun d _ => by simp) marked
  | cons c name ih =>
    rw [List.cons_append, splitChartList_cons]
    split
    · exact Nat.succ_pos _
    · rename_i plain
      have later : ¬ Unmarked name := by
        intro unmarked
        refine marked (unmarked_cons_iff.mpr ⟨fun precedes => plain ?_, unmarked⟩)
        cases name with
        | nil => simp [Precedes] at precedes
        | cons e name => exact precedes
      exact Nat.succ_lt_succ (ih later)

/-- A row of a chart is read as that chart just if nothing in the name looks like the beginning of a
version. -/
theorem splitChart_eq_iff (name : String) (version : SemVer) :
    splitChart (name ++ "-" ++ version.text) = (name, version.text) ↔ Unmarked name.toList := by
  obtain ⟨d, rest, written, digit⟩ := version.text_toList
  have row : (name ++ "-" ++ version.text).toList = name.toList ++ '-' :: d :: rest := by
    simp [written]
  constructor
  · intro split
    -- A hyphen before a digit in the name would cut the row before the name ends.
    by_contra marked
    have shorter := length_splitChartList marked ('-' :: d :: rest)
    have same := congrArg (fun parts : String × String => parts.1.toList.length) split
    simp only [splitChart, row, String.toList_ofList] at same
    omega
  · intro unmarked
    simp only [splitChart, row, splitChartList_unmarked unmarked digit]
    rw [← written, String.ofList_toList, String.ofList_toList]

/-- A revision is one of a chart in a version. -/
def ReleaseRevision.IsOf (revision : ReleaseRevision) (chart : String) (version : SemVer) : Prop :=
  revision.chart = chart ∧ revision.chartVersion = version.text

/-- A row of a listing is read as the chart it was written for just if the name of the chart has no hyphen
before a digit. -/
theorem isOf_ofListRow_iff {row : Json} {chart : String} {version : SemVer}
    (written : row.stringAt ["chart"] = chart ++ "-" ++ version.text) :
    (ReleaseRevision.ofListRow row).IsOf chart version ↔ Unmarked chart.toList := by
  rw [← splitChart_eq_iff chart version, ← written, Prod.ext_iff]
  rfl

/-! Releases. -/

/-- A release of a chart, as the program tells of it: with a row in its listing and with a document. -/
structure Reported where
  name : String
  home : String
  chart : String
  version : SemVer
  row : Json
  doc : Json
  named : Rules.checkName "id" name = .ok ()
  row_name : row.stringAt ["name"] = name
  row_home : row.stringAt ["namespace"] = home
  row_chart : row.stringAt ["chart"] = chart ++ "-" ++ version.text
  doc_name : doc.stringAt ["name"] = name
  doc_home : doc.stringAt ["namespace"] = home
  doc_chart : doc.stringAt ["chart", "metadata", "name"] = chart
  doc_version : doc.stringAt ["chart", "metadata", "version"] = version.text

/-- The program is there, and tells of some releases of different names. -/
structure Reports (view : View) (releases : List Reported) : Prop where
  waits : view .checkpoint = .ok ()
  connects : view (.connect .releases) = .ok ()
  list : view (.releaseList none none) = .ok (releases.map fun r => .ofListRow r.row)
  status : ∀ r ∈ releases, view (.releaseStatus r.home r.name) = ReleaseRevision.ofDocument r.doc
  sole : (releases.map Reported.name).Nodup

/-- A deployment shows the chart of a release and the package that it stands for. -/
structure Reported.Shown (r : Reported) (d : Deployment) : Prop where
  id : d.id = r.name
  home : d.namespace = r.home
  package : d.packageId = PackageId.derive .helmChart r.chart r.version.text
  chart : d.extensions.get? "chart" = some (.string r.chart)
  chartVersion : d.extensions.get? "chartVersion" = some (.string r.version.text)

namespace Reported

theorem get?_extensions (now : Time.Instant) (revision : ReleaseRevision) :
    (toDeployment now revision).extensions.get? "chart" = some (.string revision.chart) ∧
      (toDeployment now revision).extensions.get? "chartVersion" =
        some (.string revision.chartVersion) := by
  change (extensionsOf revision).get? "chart" = _ ∧ (extensionsOf revision).get? "chartVersion" = _
  rw [extensionsOf, appVersionField]
  split <;> simp [SortedMap.ofList, SortedMap.get?_insert_of_ne]

variable (r : Reported) (now : Time.Instant)

theorem shown_of_isOf {revision : ReleaseRevision} (name : revision.name = r.name)
    (home : revision.namespace = r.home) (isOf : revision.IsOf r.chart r.version) :
    r.Shown (toDeployment now revision) := by
  obtain ⟨chart, version⟩ := isOf
  obtain ⟨shown, versionShown⟩ := get?_extensions now revision
  constructor
  · exact name
  · exact home
  · rw [← chart, ← version]
    rfl
  · rw [← chart]
    exact shown
  · rw [← version]
    exact versionShown

theorem ofDocument : ∃ revision, ReleaseRevision.ofDocument r.doc = .ok revision ∧
    revision.name = r.name ∧ revision.namespace = r.home ∧ revision.IsOf r.chart r.version := by
  have given : r.doc.stringAt ["name"] ≠ "" := by
    rw [r.doc_name]
    exact Rules.ne_empty_of_checkName r.named
  rw [ReleaseRevision.ofDocument, if_neg (by simpa using given)]
  exact ⟨_, rfl, r.doc_name, r.doc_home, r.doc_chart, r.doc_version⟩

end Reported

namespace Reports

variable {view : View} {releases : List Reported} (reports : Reports view releases)
  (now : Time.Instant)

include reports

theorem filter_name {r : Reported} (mem : r ∈ releases) :
    releases.filter (fun other => other.name == r.name) = [r] := by
  obtain ⟨before, after, rfl⟩ := List.append_of_mem mem
  have sole := reports.sole
  rw [List.map_append, List.map_cons, List.nodup_append] at sole
  obtain ⟨-, later, apart⟩ := sole
  have none_before : before.filter (fun other => other.name == r.name) = [] := by
    refine List.filter_eq_nil_iff.mpr fun other there => ?_
    simpa using apart other.name (List.mem_map_of_mem there) r.name List.mem_cons_self
  have none_after : after.filter (fun other => other.name == r.name) = [] := by
    refine List.filter_eq_nil_iff.mpr fun other there => ?_
    have absent := (List.nodup_cons.mp later).1
    simp only [beq_iff_eq]
    intro same
    exact absent (same ▸ List.mem_map_of_mem there)
  rw [List.filter_append, none_before, List.filter_cons_of_pos (by simp), none_after,
    List.nil_append]

theorem begin_locate {r : Reported} (mem : r ∈ releases) (operation : String) :
    (OnManager.locate operation r.name).begin view = .ended (.ok r.home) := by
  have found : ((releases.map fun r => ReleaseRevision.ofListRow r.row).filter
      fun revision => revision.name == r.name).map (fun revision => revision.namespace) =
        [r.home] := by
    have own (other : Reported) : (ReleaseRevision.ofListRow other.row).name = other.name :=
      other.row_name
    simp only [List.filter_map, Function.comp_def, own, reports.filter_name mem, List.map_cons,
      List.map_nil]
    exact congrArg (fun home => [home]) r.row_home
  simp [OnManager.locate, r.named, reports.connects, reports.list, found]

theorem getDeployment_shown {r : Reported} (mem : r ∈ releases) :
    ∃ d, (OnManager.getDeployment now r.name).begin view = .ended (.ok d) ∧ r.Shown d := by
  obtain ⟨revision, read, name, home, isOf⟩ := r.ofDocument
  refine ⟨toDeployment now revision, ?_, r.shown_of_isOf now name home isOf⟩
  have status := (reports.status r mem).trans read
  simp [OnManager.getDeployment, OnManager.current, reports.waits, Program.begin_bind,
    reports.begin_locate mem, reports.connects, status]

/-- A listing shows one deployment for the row of each release. -/
theorem begin_listDeployments : ∃ deployments,
    (OnManager.listDeployments now .everything).begin view = .ended (.ok deployments) ∧
      ∀ r ∈ releases, toDeployment now (.ofListRow r.row) ∈ deployments := by
  refine ⟨Listing.finishDeployments (releases.map fun r => toDeployment now (.ofListRow r.row))
    .everything true, ?_, fun r mem => ?_⟩
  · have all : view (.releaseList (Filter.everything.namespace.filter fun s => !s.isEmpty)
        (Listing.labelSelector Filter.everything.labels)) =
          .ok (releases.map fun r => .ofListRow r.row) := reports.list
    simp [OnManager.listDeployments, reports.waits, reports.connects, all, Function.comp_def]
  · rw [Listing.finishDeployments_everything, List.mem_mergeSort]
    exact List.mem_map_of_mem mem

theorem begin_listPackages : ∃ packages,
    (OnManager.listPackages now .everything).begin view = .ended (.ok packages) ∧
      ∀ id, id ∈ packages.map Package.id ↔ ∃ r ∈ releases, packageId (.ofListRow r.row) = id := by
  refine ⟨Listing.finishPackages (releases.map fun r => toPackage now (.ofListRow r.row))
    .everything, ?_, fun id => ?_⟩
  · simp [OnManager.listPackages, OnManager.installed, reports.waits, reports.connects,
      reports.list, Function.comp_def]
  · rw [Listing.mem_ids_finishPackages]
    simp [toPackage]

end Reports

namespace Reported

variable {r : Reported} {now : Time.Instant}

theorem shown_listed_iff :
    r.Shown (toDeployment now (.ofListRow r.row)) ↔ Unmarked r.chart.toList := by
  rw [← isOf_ofListRow_iff r.row_chart]
  constructor
  · intro shown
    obtain ⟨chart, version⟩ := get?_extensions now (.ofListRow r.row)
    have chart := chart.symm.trans shown.chart
    have version := version.symm.trans shown.chartVersion
    simp only [Option.some.injEq, Json.string.injEq] at chart version
    exact ⟨chart, version⟩
  · exact r.shown_of_isOf now r.row_name r.row_home

end Reported

/-- What a row says of a chart is what a document says of it, just if the name of the chart has no hyphen before
a digit. Such a row is read as the chart and the version that it was written from, and no other one is. So a
listing shows the chart that a look-up of the release shows for just these charts, and where all charts are such,
the ids of the packages that are listed are those of the look-ups. -/
theorem rows_agree_iff (chart : String) (version : SemVer) :
    (∀ row : Json, row.stringAt ["chart"] = chart ++ "-" ++ version.text →
      ((ReleaseRevision.ofListRow row).IsOf chart version ↔ Unmarked chart.toList) ∧
      ∀ name home, (ReleaseRevision.ofHistoryRow name home row).IsOf chart version ↔
        Unmarked chart.toList) ∧
    (∀ (doc : Json) (revision : ReleaseRevision), ReleaseRevision.ofDocument doc = .ok revision →
      doc.stringAt ["chart", "metadata", "name"] = chart →
      doc.stringAt ["chart", "metadata", "version"] = version.text → revision.IsOf chart version) ∧
    ∀ (view : View) (releases : List Reported), Reports view releases → ∀ now : Time.Instant,
      ∃ deployments packages,
        (OnManager.listDeployments now .everything).begin view = .ended (.ok deployments) ∧
        (OnManager.listPackages now .everything).begin view = .ended (.ok packages) ∧
        (∀ r ∈ releases, ∃ listed ∈ deployments, ∃ found,
          (OnManager.getDeployment now r.name).begin view = .ended (.ok found) ∧ r.Shown found ∧
            listed.id = found.id ∧ (r.Shown listed ↔ Unmarked r.chart.toList)) ∧
        ((∀ r ∈ releases, Unmarked r.chart.toList) → ∀ id, id ∈ packages.map Package.id ↔
          ∃ r ∈ releases, ∃ found,
            (OnManager.getDeployment now r.name).begin view = .ended (.ok found) ∧
              found.packageId = id) := by
  refine ⟨fun row written => ⟨isOf_ofListRow_iff written, fun name home => ?_⟩, ?_, ?_⟩
  · exact isOf_ofListRow_iff written
  · intro doc revision read named versioned
    rw [ReleaseRevision.ofDocument] at read
    split at read
    · cases read
    · cases read
      exact ⟨named, versioned⟩
  · intro view releases reports now
    obtain ⟨deployments, list, rows⟩ := reports.begin_listDeployments now
    obtain ⟨packages, catalog, ids⟩ := reports.begin_listPackages now
    refine ⟨deployments, packages, list, catalog, fun r mem => ?_, fun unmarked id => ?_⟩
    · obtain ⟨found, read, shown⟩ := reports.getDeployment_shown now mem
      refine ⟨_, rows r mem, found, read, shown, ?_, Reported.shown_listed_iff⟩
      exact r.row_name.trans shown.id.symm
    · rw [ids]
      refine exists_congr fun r => and_congr_right fun mem => ?_
      obtain ⟨found, read, shown⟩ := reports.getDeployment_shown now mem
      have listed : r.Shown (toDeployment now (.ofListRow r.row)) :=
        Reported.shown_listed_iff.mpr (unmarked r mem)
      have same : packageId (.ofListRow r.row) = found.packageId :=
        listed.package.trans shown.package.symm
      rw [same]
      constructor
      · exact fun id => ⟨found, read, id⟩
      · rintro ⟨other, again, id⟩
        cases read.symm.trans again
        exact id

/-- A release of a chart in one version. -/
def webRelease (chart : String) (version : SemVer) : Reported where
  name := "web"
  home := "prod"
  chart
  version
  row := .ofPairs [
    ("name", .string "web"), ("namespace", .string "prod"),
    ("chart", .string (chart ++ "-" ++ version.text))]
  doc := .ofPairs [
    ("name", .string "web"), ("namespace", .string "prod"),
    ("chart", .ofPairs [("metadata", .ofPairs [
      ("name", .string chart), ("version", .string version.text)])])]
  named := rfl
  row_name := by simp [Json.stringAt, Json.string?At, Json.lookup, Json.string?]
  row_home := by simp [Json.stringAt, Json.string?At, Json.lookup, Json.string?]
  row_chart := by simp [Json.stringAt, Json.string?At, Json.lookup, Json.string?]
  doc_name := by simp [Json.stringAt, Json.string?At, Json.lookup, Json.string?]
  doc_home := by simp [Json.stringAt, Json.string?At, Json.lookup, Json.string?]
  doc_chart := by simp [Json.stringAt, Json.string?At, Json.lookup, Json.string?]
  doc_version := by simp [Json.stringAt, Json.string?At, Json.lookup, Json.string?]

/-- A program that tells of one release. -/
def viewOf (r : Reported) : View
  | .releaseList _ _ => .ok [.ofListRow r.row]
  | .releaseStatus _ _ => ReleaseRevision.ofDocument r.doc
  | c => Memory.view ⟨0, 0⟩ .empty c

theorem reports_viewOf (r : Reported) : Reports (viewOf r) [r] where
  waits := rfl
  connects := rfl
  list := rfl
  status _ mem := by rw [List.mem_singleton.mp mem, viewOf]
  sole := by simp

/-- A version before a release. -/
def candidate : SemVer where
  major := 1
  minor := 2
  patch := 3
  prerelease := ["rc", "1"]
  build := []
  prerelease_valid := by simp [IsPrereleasePart, IsIdentifier]
  build_valid := nofun

theorem rows_agree_iff_candidate :
    ((ReleaseRevision.ofListRow (webRelease "my-chart" candidate).row).IsOf "my-chart" candidate ↔
      Unmarked "my-chart".toList) ∧
    Reports (viewOf (webRelease "my-chart" candidate)) [webRelease "my-chart" candidate] ∧
    ∃ deployments packages,
      (OnManager.listDeployments ⟨1, 0⟩ .everything).begin (viewOf (webRelease "my-chart" candidate)) =
        .ended (.ok deployments) ∧
      (OnManager.listPackages ⟨1, 0⟩ .everything).begin (viewOf (webRelease "my-chart" candidate)) =
        .ended (.ok packages) ∧
      (∀ r ∈ [webRelease "my-chart" candidate], ∃ listed ∈ deployments, ∃ found,
        (OnManager.getDeployment ⟨1, 0⟩ r.name).begin (viewOf (webRelease "my-chart" candidate)) =
          .ended (.ok found) ∧ r.Shown found ∧ listed.id = found.id ∧
            (r.Shown listed ↔ Unmarked r.chart.toList)) ∧
      ((∀ r ∈ [webRelease "my-chart" candidate], Unmarked r.chart.toList) →
        ∀ id, id ∈ packages.map Package.id ↔ ∃ r ∈ [webRelease "my-chart" candidate], ∃ found,
          (OnManager.getDeployment ⟨1, 0⟩ r.name).begin (viewOf (webRelease "my-chart" candidate)) =
            .ended (.ok found) ∧ found.packageId = id) := by
  obtain ⟨rows, -, releases⟩ := rows_agree_iff "my-chart" candidate
  have reports := reports_viewOf (webRelease "my-chart" candidate)
  exact ⟨(rows _ (webRelease "my-chart" candidate).row_chart).1, reports,
    releases _ _ reports ⟨1, 0⟩⟩

/-- The first version of a chart. -/
def initial : SemVer where
  major := 1
  minor := 0
  patch := 0
  prerelease := []
  build := []
  prerelease_valid := nofun
  build_valid := nofun

/-- A row of the chart "web-2" is read as one of the chart "web", so a listing shows another package for its
release than a look-up does. -/
theorem row_read_as_other_chart :
    let r := webRelease "web-2" initial
    Rules.isLabel r.chart.toList = true ∧ r.row.stringAt ["chart"] = "web-2-1.0.0" ∧
    (ReleaseRevision.ofListRow r.row).chart = "web" ∧
    (ReleaseRevision.ofListRow r.row).chartVersion = "2-1.0.0" ∧ Reports (viewOf r) [r] ∧
    ∃ deployments,
      (OnManager.listDeployments ⟨1, 0⟩ .everything).begin (viewOf r) = .ended (.ok deployments) ∧
      ∃ listed ∈ deployments, ∃ found,
        (OnManager.getDeployment ⟨1, 0⟩ "web").begin (viewOf r) = .ended (.ok found) ∧
          listed.id = found.id ∧ listed.packageId ≠ found.packageId ∧
          listed.extensions.get? "chart" ≠ found.extensions.get? "chart" := by
  intro r
  have reports := reports_viewOf r
  obtain ⟨deployments, list, rows⟩ := reports.begin_listDeployments ⟨1, 0⟩
  obtain ⟨found, read, shown⟩ := reports.getDeployment_shown ⟨1, 0⟩ List.mem_cons_self
  refine ⟨by decide +kernel, by decide +kernel, by decide +kernel, by decide +kernel, reports, deployments, list, _,
    rows r List.mem_cons_self, found, read, r.row_name.trans shown.id.symm, ?_, ?_⟩
  · rw [shown.package]
    decide +kernel
  · intro same
    have listed := (Reported.get?_extensions ⟨1, 0⟩ (.ofListRow r.row)).1
    have charts := Json.string.inj (Option.some.inj (listed.symm.trans (same.trans shown.chart)))
    exact absurd charts (by decide +kernel)

end DeploymentGateway.Release
