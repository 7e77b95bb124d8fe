import DeploymentGateway.Flux.Object
import DeploymentGateway.Proofs.Text.Letters
import DeploymentGateway.Proofs.Text.Split
/-!
Commits in revisions. A revision names a commit after a branch or a tag, and those may have slashes, at signs
and hexadecimal words of their own. But a commit has none of the marks that stand before it, so that the last
mark of a revision is the one before the commit.
-/

set_option autoImplicit false

namespace DeploymentGateway.Flux

open Text (FollowsLast IsHexadecimal)

variable {revision commit : String}

/-! What is taken for the commit of a revision. -/

/-- A part of a revision is taken for the commit if it is hexadecimal. -/
private theorem taken_eq_some_iff {part : String} :
    (if !part.isEmpty && part.toList.all Text.isHexDigit then some part else none) = some commit ↔
      IsHexadecimal commit ∧ part = commit := by
  rw [Option.ite_none_right_eq_some, ← Text.isHexadecimal_iff, Option.some.injEq]
  constructor
  · rintro ⟨hexadecimal, rfl⟩
    exact ⟨hexadecimal, rfl⟩
  · rintro ⟨hexadecimal, rfl⟩
    exact ⟨hexadecimal, rfl⟩

/-- In a revision with a colon the commit is looked for behind the last one. -/
theorem commitOf_eq_some_iff_of_mem (there : ':' ∈ revision.toList) :
    commitOf revision = some commit ↔ IsHexadecimal commit ∧ FollowsLast ':' commit revision := by
  rcases cut : Text.cutLast? ':' revision with _ | ⟨before, after⟩
  · exact absurd there (Text.cutLast?_eq_none_iff.mp cut)
  · have last : Text.afterLast ':' revision = after := by rw [Text.afterLast, cut]
    rw [← Text.afterLast_eq_iff_of_mem there, last, commitOf, cut]
    exact taken_eq_some_iff

/-- In a revision without a colon the commit is looked for behind the last slash. -/
theorem commitOf_eq_some_iff_of_not_mem (plain : ':' ∉ revision.toList) :
    commitOf revision = some commit ↔
      IsHexadecimal commit ∧ (revision = commit ∨ FollowsLast '/' commit revision) := by
  rw [commitOf, Text.cutLast?_eq_none_iff.mpr plain]
  refine taken_eq_some_iff.trans (and_congr_right fun hexadecimal => ?_)
  by_cases there : '/' ∈ revision.toList
  · have other : revision ≠ commit := by
      rintro rfl
      exact hexadecimal.not_mem (by decide) there
    rw [Text.afterLast_eq_iff_of_mem there, or_iff_right other]
  · have unmarked : ¬ FollowsLast '/' commit revision := fun follows => there follows.mem
    rw [Text.afterLast_of_not_mem there, or_iff_left unmarked]

/-- A commit is found behind a branch or a tag with a digest algorithm, whatever the two are, and behind
one alone if that has no colon. What is found in a revision is hexadecimal, and it is all of the revision or
follows the last of the marks that count there. -/
theorem commitOf_recovers :
    (∀ reference commit, IsHexadecimal commit →
      commitOf (reference ++ "@sha1:" ++ commit) = some commit) ∧
    (∀ reference commit, ':' ∉ reference.toList → IsHexadecimal commit →
      commitOf (reference ++ "/" ++ commit) = some commit) ∧
    ∀ revision commit, commitOf revision = some commit ↔ IsHexadecimal commit ∧
      (revision = commit ∨ FollowsLast ':' commit revision ∨
        ':' ∉ revision.toList ∧ FollowsLast '/' commit revision) := by
  refine ⟨?_, ?_, ?_⟩
  · intro reference commit hexadecimal
    have follows : FollowsLast ':' commit (reference ++ "@sha1:" ++ commit) :=
      ⟨hexadecimal.not_mem (by decide), reference ++ "@sha1", by simp [String.ext_iff]⟩
    exact (commitOf_eq_some_iff_of_mem follows.mem).mpr ⟨hexadecimal, follows⟩
  · intro reference commit plain hexadecimal
    have follows : FollowsLast '/' commit (reference ++ "/" ++ commit) :=
      ⟨hexadecimal.not_mem (by decide), reference, rfl⟩
    have unmarked : ':' ∉ (reference ++ "/" ++ commit).toList := by
      have bare : ':' ∉ commit.toList := hexadecimal.not_mem (by decide)
      simp [plain, bare]
    exact (commitOf_eq_some_iff_of_not_mem unmarked).mpr ⟨hexadecimal, .inr follows⟩
  · intro revision commit
    by_cases there : ':' ∈ revision.toList
    · rw [commitOf_eq_some_iff_of_mem there]
      refine and_congr_right fun hexadecimal => ?_
      have other : revision ≠ commit := by
        rintro rfl
        exact hexadecimal.not_mem (by decide) there
      rw [or_iff_right other, or_iff_left fun unmarked => unmarked.1 there]
    · rw [commitOf_eq_some_iff_of_not_mem there]
      have unmarked : ¬ FollowsLast ':' commit revision := fun follows => there follows.mem
      rw [or_iff_right unmarked, and_iff_right there]

/-- The names of a tag and of a branch look like revisions themselves. -/
theorem commitOf_recovers_behind_revision :
    commitOf ("release/cafe@sha1:beef" ++ "@sha1:" ++ "4F2a9c1d") = some "4F2a9c1d" ∧
    commitOf ("feature/face@2" ++ "/" ++ "4F2a9c1d") = some "4F2a9c1d" ∧
    FollowsLast '/' "cafe" "release/v1/cafe" := by
  have hexadecimal (commit : String)
      (all : (!commit.isEmpty && commit.toList.all Text.isHexDigit) = true) : IsHexadecimal commit :=
    Text.isHexadecimal_iff.mpr all
  obtain ⟨digest, branch, found⟩ := commitOf_recovers
  refine ⟨digest _ _ (hexadecimal _ (by decide)), branch _ _ (by decide) (hexadecimal _ (by decide)), ?_⟩
  rcases ((found "release/v1/cafe" "cafe").mp (by decide +kernel)).2 with whole | colon | slash
  · exact absurd whole (by decide)
  · exact absurd colon.mem (by decide)
  · exact slash.2

end DeploymentGateway.Flux
