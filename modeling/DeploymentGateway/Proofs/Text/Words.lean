import Mathlib.Data.List.TakeWhile
import DeploymentGateway.Text.Blank
/-!
What is dropped at the end of a text, and how a text is cut into words.
-/

set_option autoImplicit false

namespace DeploymentGateway.Text

/-- A text is what is kept of it and, behind that, what is dropped. -/
theorem exists_eq_dropEndWhile_append (test : Char → Bool) (s : List Char) :
    ∃ dropped, s = dropEndWhile test s ++ dropped ∧ ∀ c ∈ dropped, test c = true := by
  refine ⟨(s.reverse.takeWhile test).reverse, ?_, fun c mem => ?_⟩
  · rw [dropEndWhile, ← List.reverse_append, List.takeWhile_append_dropWhile, List.reverse_reverse]
  · exact List.mem_takeWhile_imp (List.mem_reverse.mp mem)

theorem isBlank_of_isDigit {c : Char} (digit : c.isDigit = true) : isBlank c = false := by
  have bounds : 48 ≤ c.toNat ∧ c.toNat ≤ 57 := by
    simpa [Char.isDigit, UInt32.le_iff_toNat_le] using digit
  simp only [isBlank, Bool.or_eq_false_iff, Bool.and_eq_false_iff, decide_eq_false_iff_not, beq_eq_false_iff_ne]
  omega

theorem words_cons_of_blank {c : Char} (blank : isBlank c = true) (s : List Char) : words (c :: s) = words s := by
  rw [words, words, List.dropWhile_cons_of_pos blank]

/-- The first word of a text ends before the first blank. -/
theorem words_append {word : List Char} (some : word ≠ []) (solid : ∀ c ∈ word, isBlank c = false)
    {blank : Char} (ends : isBlank blank = true) (rest : List Char) :
    words (word ++ blank :: rest) = word :: words rest := by
  obtain ⟨c, letters, rfl⟩ := List.exists_cons_of_ne_nil some
  have noBlank : ¬ isBlank c = true := by simp [solid c List.mem_cons_self]
  have letters_solid : ∀ d ∈ letters, (!isBlank d) = true := by
    intro d mem
    simp [solid d (List.mem_cons_of_mem c mem)]
  have start : (c :: letters ++ blank :: rest).dropWhile isBlank = c :: (letters ++ blank :: rest) :=
    List.dropWhile_cons_of_neg noBlank
  rw [words]
  split
  · rename_i nothing
    exact absurd (start.symm.trans nothing) (List.cons_ne_nil c _)
  · rename_i d behind found
    obtain ⟨rfl, rfl⟩ := List.cons.inj (start.symm.trans found)
    rw [List.takeWhile_append_of_pos letters_solid, List.takeWhile_cons_of_neg (by simpa using ends),
      List.append_nil, List.dropWhile_append_of_pos letters_solid,
      List.dropWhile_cons_of_neg (by simpa using ends), words_cons_of_blank ends]

end DeploymentGateway.Text
