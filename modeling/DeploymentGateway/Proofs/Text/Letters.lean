import DeploymentGateway.Text.Blank
import DeploymentGateway.Text.Letters
import Mathlib.Data.List.TakeWhile
/-!
Texts that are the same but for the case of their letters, texts that are nothing but blanks, and texts of
hexadecimal digits.
-/

set_option autoImplicit false

namespace DeploymentGateway.Text

theorem sameIgnoringCase_iff {s t : String} :
    sameIgnoringCase s t = true ↔ lowercase s = lowercase t := by
  simp [sameIgnoringCase]

theorem sameIgnoringCase_symm {s t : String} (same : sameIgnoringCase s t = true) :
    sameIgnoringCase t s = true :=
  sameIgnoringCase_iff.mpr (sameIgnoringCase_iff.mp same).symm

theorem sameIgnoringCase_trans {s t u : String} (first : sameIgnoringCase s t = true)
    (second : sameIgnoringCase t u = true) : sameIgnoringCase s u = true :=
  sameIgnoringCase_iff.mpr ((sameIgnoringCase_iff.mp first).trans (sameIgnoringCase_iff.mp second))

theorem lowercase_eq_empty_iff {s : String} : lowercase s = "" ↔ s = "" := by
  simp [lowercase]

private theorem dropEndWhile_eq_nil_iff {test : Char → Bool} {s : List Char} :
    dropEndWhile test s = [] ↔ ∀ c ∈ s, test c = true := by
  simp [dropEndWhile, List.dropWhile_eq_nil_iff]

/-- Once its outer blanks are gone, nothing is left of exactly the blank texts. -/
theorem trim_eq_empty_iff {s : String} : trim s = "" ↔ isBlankText s = true := by
  have whole : (∀ c ∈ s.toList.dropWhile isBlank, isBlank c = true) ↔
      ∀ c ∈ s.toList, isBlank c = true := by
    constructor
    · intro blank c mem
      rw [← List.takeWhile_append_dropWhile (p := isBlank) (l := s.toList)] at mem
      rcases List.mem_append.mp mem with front | rest
      · exact List.mem_takeWhile_imp front
      · exact blank c rest
    · intro blank c mem
      exact blank c ((List.dropWhile_sublist isBlank).subset mem)
  simp [trim, isBlankText, dropEndWhile_eq_nil_iff, whole]

/-- A text of hexadecimal digits of either case. -/
structure IsHexadecimal (s : String) : Prop where
  given : s ≠ ""
  digits : ∀ c ∈ s.toList, ('0' ≤ c ∧ c ≤ '9') ∨ ('a' ≤ c ∧ c ≤ 'f') ∨ ('A' ≤ c ∧ c ≤ 'F')

theorem isHexDigit_iff {c : Char} : isHexDigit c = true ↔
    ('0' ≤ c ∧ c ≤ '9') ∨ ('a' ≤ c ∧ c ≤ 'f') ∨ ('A' ≤ c ∧ c ≤ 'F') := by
  have decimal : c.isDigit = true ↔ '0' ≤ c ∧ c ≤ '9' := by
    simp [Char.isDigit, Char.le_def]
  rw [← decimal, isHexDigit, hexValue?]
  split
  · rename_i digit
    simp [digit]
  · rename_i other
    split
    · rename_i small
      simp [small]
    · rename_i big
      split <;> rename_i last <;> simp [other, big, last]

theorem isHexadecimal_iff {s : String} :
    IsHexadecimal s ↔ (!s.isEmpty && s.toList.all isHexDigit) = true := by
  rw [Bool.and_eq_true, List.all_eq_true]
  constructor
  · rintro ⟨given, digits⟩
    refine ⟨by simpa using given, fun c mem => isHexDigit_iff.mpr (digits c mem)⟩
  · rintro ⟨given, digits⟩
    exact ⟨by simpa using given, fun c mem => isHexDigit_iff.mp (digits c mem)⟩

/-- What is no digit is not in a hexadecimal text. -/
theorem IsHexadecimal.not_mem {s : String} (hexadecimal : IsHexadecimal s) {c : Char}
    (other : isHexDigit c = false) : c ∉ s.toList := by
  intro mem
  rw [isHexDigit_iff.mpr (hexadecimal.digits c mem)] at other
  cases other

end DeploymentGateway.Text
