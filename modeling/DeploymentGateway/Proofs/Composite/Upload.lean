import DeploymentGateway.Proofs.Composite.Reference
import DeploymentGateway.Proofs.Creation.Cluster
/-!
What an upload with a version installs. The version is joined to a reference that has no tag, and is read from
the whole again as the tag of that. So the package that is installed has the version that was asked for just
if the version can be told from what it is joined to: there is something of it, no slash is in it, and no colon
stands before it already.
-/

set_option autoImplicit false

namespace DeploymentGateway.Composite

open Cluster

/-- A reference with a version, which is joined to it if it has no tag. -/
def versioned (reference version : String) : String :=
  if packageTag reference = none then reference ++ ":" ++ version else reference

/-- A version that is joined to a reference can be read from the whole. -/
structure Joinable (reference version : String) : Prop where
  given : version ≠ ""
  oneSegment : '/' ∉ version.toList
  closed : reference.toList.getLast? ≠ some ':'

section

variable {reference version : String}

/-- What is read as a tag is shorter than the reference, which also has a colon. -/
theorem length_packageTag {tag : String} (read : packageTag reference = some tag) :
    tag.length < reference.length := by
  rcases cut : Text.cutFirst? ':' (Text.afterLast '/' reference) with _ | ⟨name, after⟩
  · simp [packageTag, cut] at read
  have same : after = tag := by
    by_cases empty : after = ""
    · simp [packageTag, cut, empty] at read
    · simpa [packageTag, cut, empty] using read
  have short : (Text.afterLast '/' reference).length ≤ reference.length :=
    (Text.afterLast_isSuffix '/' reference).length_le
  rw [Text.eq_append_of_cutFirst? cut, same] at short
  simp only [String.length_append, String.length_singleton] at short
  omega

/-- What is read as the tag of a reference that a version was joined to. -/
theorem packageTag_join (untagged : packageTag reference = none) (version : String) :
    packageTag (reference ++ ":" ++ version) =
      if '/' ∈ version.toList then packageTag version
      else if reference.toList.getLast? = some ':' then some (":" ++ version)
      else if version = "" then none
      else some version := by
  split
  · rename_i slash
    rw [packageTag, packageTag, Text.afterLast_append_of_mem slash]
  rename_i plain
  have tail : '/' ∉ (":" ++ version).toList := by simpa using plain
  have whole : Text.afterLast '/' (reference ++ ":" ++ version) =
      Text.afterLast '/' reference ++ ":" ++ version := by
    rw [String.append_assoc, Text.afterLast_append_of_not_mem tail, String.append_assoc]
  obtain ⟨name, single, last | last⟩ := packageTag_eq_none_iff.mp untagged
  · have closed : reference.toList.getLast? ≠ some ':' := by
      intro colon
      obtain ⟨before, ended⟩ := List.getLast?_eq_some_iff.mp colon
      have joined : reference = String.ofList before ++ ":" := by
        apply String.toList_injective
        simp [ended]
      rw [← last, joined, Text.afterLast_append_of_not_mem (by decide)] at single
      simp at single
    rw [if_neg closed, packageTag_of_afterLast (whole.trans (by rw [last])) single]
  · have colon : reference.toList.getLast? = some ':' := by
      obtain ⟨before, same⟩ := Text.afterLast_isSuffix '/' reference
      rw [← same, last]
      simp
    have tag : Text.afterLast '/' (reference ++ ":" ++ version) = name ++ ":" ++ (":" ++ version) := by
      rw [whole, last, ← String.append_assoc]
    rw [if_pos colon, packageTag_of_afterLast tag single, if_neg (by simp)]

/-- A version that was joined to a reference is read again just if it can be told from that. -/
theorem getD_packageTag_join_iff (untagged : packageTag reference = none) :
    (packageTag (reference ++ ":" ++ version)).getD "latest" = version ↔ Joinable reference version := by
  rw [packageTag_join untagged]
  split
  · rename_i slash
    refine iff_of_false (fun same => ?_) fun joinable => joinable.oneSegment slash
    rcases read : packageTag version with _ | tag
    · rw [read] at same
      rw [← same] at slash
      exact absurd slash (by decide)
    · rw [read] at same
      exact absurd (congrArg String.length same) (length_packageTag read).ne
  rename_i plain
  split
  · rename_i colon
    refine iff_of_false (fun same => ?_) fun joinable => joinable.closed colon
    have lengths := congrArg String.length same
    simp at lengths
  rename_i closed
  split
  · rename_i empty
    refine iff_of_false (fun same => ?_) fun joinable => joinable.given empty
    simp [empty] at same
  · rename_i given
    exact iff_of_true rfl ⟨given, plain, closed⟩

/-- An upload with a version is accepted with a reference that has that version for its tag, or has no tag. -/
theorem uploadReference_eq_ok {upload : PackageUpload} {installed : String}
    (asked : upload.version = some version) (accepted : uploadReference upload = .ok installed) :
    installed = versioned (Text.trim upload.reference) version ∧
      ∀ tag ∈ packageTag (Text.trim upload.reference), tag = version := by
  unfold uploadReference at accepted
  rw [asked] at accepted
  rcases read : packageTag (Text.trim upload.reference) with _ | tag
  · grind [versioned]
  · grind [versioned]

/-- The package of an accepted version has that version just if the version is its tag already, or can be
told from what it is joined to. -/
theorem getD_packageTag_versioned_iff (agree : ∀ tag ∈ packageTag reference, tag = version) :
    (packageTag (versioned reference version)).getD "latest" = version ↔
      (packageTag reference = none → Joinable reference version) := by
  rcases read : packageTag reference with _ | tag
  · rw [versioned, if_pos read, getD_packageTag_join_iff read]
    simp
  · have same : tag = version := agree tag read
    simp [versioned, read, same]

end

section

variable {now : Time.Instant} {upload : PackageUpload}

theorem string?At_buildConfiguration {configuration : Json}
    (built : buildConfiguration upload = .ok configuration) : ∃ reference,
      uploadReference upload = .ok reference ∧
        configuration.string?At ["spec", "package"] = some reference := by
  obtain ⟨-, -, built⟩ := Outcome.bind_eq_ok.mp built
  obtain ⟨reference, accepted, built⟩ := Outcome.bind_eq_ok.mp built
  obtain ⟨policy, -, built⟩ := Outcome.bind_eq_ok.mp built
  cases built
  exact ⟨reference, accepted, by simp [Json.string?At, Json.lookup, Json.string?]⟩

/-- An upload that succeeds has made the configuration that is built for it, and tells of that. -/
theorem OnCluster.ensures_uploadPackage {objects : Objects} :
    (uploadPackage now upload).Ensures .objects now objects fun outcome after =>
      ∀ package, outcome = .ok package → ∃ configuration new,
        buildConfiguration upload = .ok configuration ∧
          Made now configurationKind "" upload.name configuration objects after new ∧
          package = toPackage now new := by
  refine .checkpoint nofun (.check (fun _ _ => nofun) fun configuration built => .connect nofun ?_)
  have named := nameOf_buildConfiguration built
  refine .create (fun _ => .done nofun) fun store new free written => .done ?_
  rw [named] at free ⊢
  rintro _ ⟨⟩
  exact ⟨configuration, new, built, ⟨free, rfl, store, written⟩, rfl⟩

/-- A package is installed from a reference in a version. The reference is well formed in some cases only; a
digest that is in it keeps the version away, as a tag does. -/
structure InstalledIn (reference version : String) (configuration : Json) (package : Package) : Prop where
  installs : configuration.string?At ["spec", "package"] = some (versioned reference version)
  version_iff : package.version = version ↔
    (packageTag reference = none → Joinable reference version)
  joined_iff : ∀ named : Reference, reference = named.text →
    (configuration.string?At ["spec", "package"] =
        some (if named.tag = none then named.text ++ ":" ++ version else named.text) ↔
      (named.tag = none → named.digest = none))

theorem versioned_text_iff (named : Reference) (version : String) :
    versioned named.text version =
        (if named.tag = none then named.text ++ ":" ++ version else named.text) ↔
      (named.tag = none → named.digest = none) := by
  have longer : named.text ≠ named.text ++ ":" ++ version := by
    rw [String.append_assoc]
    exact (Text.append_ne_self (by simp) named.text).symm
  rw [versioned, named.packageTag_text]
  rcases named.tag with _ | tag <;> rcases named.digest with _ | digest <;> simp [longer]

/-- Where an upload with a version succeeds, its configuration has the reference with the version joined to it
if no tag is read from the reference. The package has that version just if it is the tag already, or can be told
from the reference that it was joined to. -/
theorem version_of_uploadPackage {version : String} {memory after : Memory} {package : Package}
    (asked : upload.version = some version)
    (run : (OnCluster.uploadPackage now upload).Runs now memory (.ok package) after) :
    ∃ configuration, after.cluster.object? configurationKind "" upload.name = some configuration ∧
      InstalledIn (Text.trim upload.reference) version configuration package := by
  obtain ⟨configuration, new, built, made, rfl⟩ :=
    OnCluster.ensures_uploadPackage memory _ after rfl run package rfl
  obtain ⟨reference, accepted, installed⟩ := string?At_buildConfiguration built
  obtain ⟨joined, agree⟩ := uploadReference_eq_ok asked accepted
  have installs : new.string?At ["spec", "package"] =
      some (versioned (Text.trim upload.reference) version) := by
    rw [← joined, ← installed, Json.string?At, Json.string?At, made.lookup_spec (by decide)]
  have shown : (toPackage now new).version =
      (packageTag (versioned (Text.trim upload.reference) version)).getD "latest" := by
    simp [toPackage, Json.stringAt, installs]
  refine ⟨new, made.stored, installs, ?_, fun named same => ?_⟩
  · rw [shown, getD_packageTag_versioned_iff agree]
  · rw [installs, Option.some.injEq, same, versioned_text_iff]

/-- An upload of a package in a version. -/
def platformUploadIn (version : String) : PackageUpload where
  name := "platform"
  reference := "xpkg.upbound.io/acme/platform"
  version := some version
  extensions := .empty

theorem version_of_uploadPackage_platform : ∃ package after,
    (OnCluster.uploadPackage ⟨0, 0⟩ (platformUploadIn "v1.2.0")).Runs ⟨0, 0⟩ .empty (.ok package) after ∧
      package.version = "v1.2.0" := by
  have run : (OnCluster.uploadPackage ⟨0, 0⟩ (platformUploadIn "v1.2.0")).Runs ⟨0, 0⟩ .empty _ _ :=
    Program.runs_runInMemory _ .empty
  rcases ended : ((OnCluster.uploadPackage ⟨0, 0⟩ (platformUploadIn "v1.2.0")).runInMemory ⟨0, 0⟩
      .empty).1 with failure | package
  · have accepted : ((OnCluster.uploadPackage ⟨0, 0⟩ (platformUploadIn "v1.2.0")).runInMemory ⟨0, 0⟩
        .empty).1.isOk = true := by decide +kernel
    rw [ended] at accepted
    cases accepted
  · rw [ended] at run
    obtain ⟨configuration, -, installed⟩ := version_of_uploadPackage rfl run
    exact ⟨package, _, run, installed.version_iff.mpr fun _ => ⟨by decide, by decide, by decide⟩⟩

/-- A version with a slash in it is accepted, and the package that is installed has another one. -/
theorem uploadPackage_installs_other_version : ∃ package after,
    (OnCluster.uploadPackage ⟨0, 0⟩ (platformUploadIn "feature/login")).runInMemory ⟨0, 0⟩ .empty =
        (.ok package, after) ∧
      package.version = "latest" :=
  ⟨_, _, rfl, by decide +kernel⟩

end

end DeploymentGateway.Composite
