import DeploymentGateway.Proofs.Text.Split
import DeploymentGateway.Rules
import Mathlib.Logic.Basic
/-!
The rules for input as properties of it, and the checks as decisions of these: a check passes what has the
property and refuses everything else as invalid.
-/

set_option autoImplicit false

namespace DeploymentGateway

namespace Outcome

variable {α β : Type}

/-- An outcome fails, if it does, because of the input. -/
def Strict (outcome : Outcome α) : Prop :=
  ∀ failure, outcome = .error failure → failure.kind = .validation

@[simp]
theorem strict_ok (a : α) : Strict (.ok a : Outcome α) :=
  nofun

@[simp]
theorem strict_pure (a : α) : Strict (pure a : Outcome α) :=
  nofun

@[simp]
theorem strict_error (failure : Failure) :
    Strict (.error failure : Outcome α) ↔ failure.kind = .validation := by
  refine ⟨fun strict => strict _ rfl, fun invalid other same => ?_⟩
  cases same
  exact invalid

@[simp]
theorem strict_bind_iff {outcome : Outcome α} {f : α → Outcome β} :
    Strict (outcome >>= f) ↔ Strict outcome ∧ ∀ a, outcome = .ok a → Strict (f a) := by
  rcases outcome with failure | a
  · change Strict (.error failure : Outcome β) ↔ _
    simp
  · change Strict (f a) ↔ _
    simp

@[simp]
theorem strict_map_iff {outcome : Outcome α} {f : α → β} :
    Strict (f <$> outcome) ↔ Strict outcome := by
  rcases outcome with failure | a
  · change Strict (.error failure : Outcome β) ↔ _
    simp
  · change Strict (.ok (f a) : Outcome β) ↔ _
    simp

theorem strict_mapM {f : α → Outcome β} (strict : ∀ a, Strict (f a)) (items : List α) :
    Strict (items.mapM f) := by
  induction items with
  | nil => exact strict_ok []
  | cons item rest ih =>
    rw [List.mapM_cons, strict_bind_iff]
    refine ⟨strict item, fun b _ => ?_⟩
    rw [strict_bind_iff]
    exact ⟨ih, fun bs _ => strict_ok (b :: bs)⟩

end Outcome

namespace Rules

/-! The rules. -/

/-- A DNS label of 1 to 63 octets: small letters, digits and hyphens, with no hyphen at either end. -/
structure IsName (value : String) : Prop where
  size : 1 ≤ value.utf8ByteSize ∧ value.utf8ByteSize ≤ 63
  plain : ∀ c ∈ value.toList, ('a' ≤ c ∧ c ≤ 'z') ∨ ('0' ≤ c ∧ c ≤ '9') ∨ c = '-'
  start : value.toList.head? ≠ some '-'
  stop : value.toList.getLast? ≠ some '-'

/-- A relative path without a segment of two dots. -/
structure IsInside (value : String) : Prop where
  relative : ∀ c ∈ value.toList.head?, c ≠ '/' ∧ c ≠ '\\'
  level : ¬ Text.Stands isPathMark ['.', '.'] value.toList

/-- Log options ask for at least one line where they say how many, of a container with a proper name
where they say which. -/
structure AreLogOptions (options : LogOptions) : Prop where
  tail : ∀ tail ∈ options.tailLines, 0 < tail
  container : ∀ container ∈ options.container, IsName container

/-- The extension for a path, where there is one, is a path inside the repository. -/
def HasPathInside (extensions : Extensions) : Prop :=
  ∀ value ∈ extensions.get? "path", value = .null ∨ ∃ path, value = .string path ∧ IsInside path

/-! The checks decide the rules. -/

theorem isNameEnd_iff (c : Char) :
    isNameEnd c = true ↔ ('a' ≤ c ∧ c ≤ 'z') ∨ ('0' ≤ c ∧ c ≤ '9') := by
  simp [isNameEnd, Char.isDigit, Char.le_def]

theorem isNameCharacter_iff (c : Char) :
    isNameCharacter c = true ↔ ('a' ≤ c ∧ c ≤ 'z') ∨ ('0' ≤ c ∧ c ≤ '9') ∨ c = '-' := by
  simp [isNameCharacter, isNameEnd_iff, or_assoc]

/-- Where only the characters of names stand, one is an end of a name if it is no hyphen. -/
private theorem isNameEnd_of_isNameCharacter {c : Char} (inside : isNameCharacter c = true) :
    isNameEnd c = true ↔ c ≠ '-' := by
  constructor
  · rintro ending rfl
    exact absurd ending (by decide)
  · intro other
    simpa [isNameCharacter, other] using inside

private theorem any_isNameEnd_iff {s : List Char} {c? : Option Char}
    (plain : ∀ c ∈ s, isNameCharacter c = true) (mem : ∀ c ∈ c?, c ∈ s) (there : c?.isSome) :
    c?.any isNameEnd = true ↔ c? ≠ some '-' := by
  obtain ⟨c, rfl⟩ := Option.isSome_iff_exists.mp there
  simpa using isNameEnd_of_isNameCharacter (plain c (mem c rfl))

/-- What is tested character by character is a label in the sense of the rule. -/
theorem isLabel_iff {s : List Char} (nonempty : s ≠ []) : isLabel s = true ↔
    (∀ c ∈ s, ('a' ≤ c ∧ c ≤ 'z') ∨ ('0' ≤ c ∧ c ≤ '9') ∨ c = '-') ∧
      s.head? ≠ some '-' ∧ s.getLast? ≠ some '-' := by
  simp only [isLabel, Bool.and_eq_true, List.all_eq_true, and_assoc, ← isNameCharacter_iff]
  refine and_congr_right fun plain => ?_
  refine and_congr (any_isNameEnd_iff plain (fun c => List.mem_of_mem_head?) ?_)
    (any_isNameEnd_iff plain (fun c => List.mem_of_getLast?) ?_)
  · simpa using nonempty
  · simpa using nonempty

theorem checkName_ok_iff {field value : String} :
    checkName field value = .ok () ↔ IsName value := by
  by_cases empty : value = ""
  · subst empty
    exact iff_of_false (by simp [checkName]) fun name => absurd name.size.1 (by decide)
  have positive : 1 ≤ value.utf8ByteSize := by
    have nonzero : value.utf8ByteSize ≠ 0 := by simpa using empty
    omega
  have letters : value.toList ≠ [] := by simpa using empty
  have shape : checkName field value = .ok () ↔
      value.utf8ByteSize ≤ 63 ∧ isLabel value.toList = true := by
    rw [checkName, if_neg (by simpa using empty)]
    split
    · rename_i long
      exact iff_of_false nofun fun fits => absurd fits.1 (Nat.not_le_of_lt long)
    · rename_i short
      rcases label : isLabel value.toList with _ | _
      · simp
      · exact iff_of_true rfl ⟨Nat.le_of_not_lt short, rfl⟩
  rw [shape, isLabel_iff letters]
  exact ⟨fun ⟨short, plain, start, stop⟩ => ⟨⟨positive, short⟩, plain, start, stop⟩,
    fun name => ⟨name.size.2, name.plain, name.start, name.stop⟩⟩

@[simp]
theorem checkName_strict (field value : String) : (checkName field value).Strict := by
  unfold checkName
  split
  · simp [Failure.kind]
  split
  · simp [Failure.kind]
  split <;> simp [Failure.kind]

/-- A name that is refused is refused in its field. -/
theorem field_of_checkName {field value : String} {failure : Failure}
    (failed : checkName field value = .error failure) : ∃ reason, failure = .invalid field reason := by
  unfold checkName at failed
  split at failed
  · exact ⟨_, (Except.error.inj failed).symm⟩
  split at failed
  · exact ⟨_, (Except.error.inj failed).symm⟩
  split at failed
  · exact ⟨_, (Except.error.inj failed).symm⟩
  · cases failed

theorem checkPath_ok_iff {field value : String} :
    checkPath field value = .ok () ↔ IsInside value := by
  have absolute : value.toList.head?.any isPathMark = true ↔
      ¬ ∀ c ∈ value.toList.head?, c ≠ '/' ∧ c ≠ '\\' := by
    rcases value.toList.head? with _ | c
    · simp
    · by_cases slash : c = '/' <;> simp [isPathMark, slash]
  have climbs : (Text.pieces isPathMark value.toList).any (· == ['.', '.']) = true ↔
      Text.Stands isPathMark ['.', '.'] value.toList := by
    have dots : ∀ c ∈ ['.', '.'], isPathMark c = false := by simp [isPathMark]
    simp [Text.mem_pieces_iff, dots]
  unfold checkPath
  split
  · rename_i marked
    exact iff_of_false nofun fun inside => absolute.mp marked inside.relative
  · rename_i unmarked
    split
    · rename_i up
      exact iff_of_false nofun fun inside => inside.level (climbs.mp up)
    · rename_i level
      have relative := Decidable.of_not_not fun marked => unmarked (absolute.mpr marked)
      exact iff_of_true rfl ⟨relative, fun up => level (climbs.mpr up)⟩

@[simp]
theorem checkPath_strict (field value : String) : (checkPath field value).Strict := by
  unfold checkPath
  split
  · simp [Failure.kind]
  split <;> simp [Failure.kind]

theorem checkReplicas_ok_iff {replicas : Int32} :
    checkReplicas replicas = .ok () ↔ 0 ≤ replicas := by
  unfold checkReplicas
  split
  · rename_i negative
    exact iff_of_false nofun (Int32.not_le.mpr negative)
  · rename_i positive
    exact iff_of_true rfl (Int32.not_lt.mp positive)

@[simp]
theorem checkReplicas_strict (replicas : Int32) : (checkReplicas replicas).Strict := by
  unfold checkReplicas
  split <;> simp [Failure.kind]

theorem checkRevision_ok_iff {revision : Int64} :
    checkRevision revision = .ok () ↔ 0 ≤ revision := by
  unfold checkRevision
  split
  · rename_i negative
    exact iff_of_false nofun (Int64.not_le.mpr negative)
  · rename_i positive
    exact iff_of_true rfl (Int64.not_lt.mp positive)

@[simp]
theorem checkRevision_strict (revision : Int64) : (checkRevision revision).Strict := by
  unfold checkRevision
  split <;> simp [Failure.kind]

/-- The two checks of log options, one after the other. -/
private theorem checkLogOptions_eq (options : LogOptions) : checkLogOptions options =
    if options.tailLines.any (· ≤ 0) then
      .error (.invalid "tail_lines" ("must be > 0, got " ++
        Text.signedDecimal (options.tailLines.getD 0).toInt))
    else match options.container with
      | some container => checkName "container" container
      | none => .ok () := by
  obtain ⟨_ | tail, _ | container⟩ := options
  · rfl
  · rfl
  · by_cases few : tail ≤ 0
    · simp [checkLogOptions, few]
      rfl
    · simp [checkLogOptions, few]
      rfl
  · by_cases few : tail ≤ 0
    · simp [checkLogOptions, few]
      rfl
    · simp [checkLogOptions, few]

theorem checkLogOptions_ok_iff {options : LogOptions} :
    checkLogOptions options = .ok () ↔ AreLogOptions options := by
  rw [checkLogOptions_eq]
  split
  · rename_i few
    obtain ⟨tail, given, few⟩ := (Option.any_eq_true _ _).mp few
    exact iff_of_false nofun fun good => Int64.not_lt.mpr (by simpa using few) (good.tail tail given)
  rename_i many
  have tails : ∀ tail ∈ options.tailLines, 0 < tail := by
    intro tail given
    refine Int64.not_le.mp fun few => many ?_
    simp [Option.mem_def.mp given, few]
  split
  · rename_i container given
    rw [checkName_ok_iff]
    refine ⟨fun name => ⟨tails, fun other same => ?_⟩, fun good => good.container container given⟩
    rw [given] at same
    cases same
    exact name
  · rename_i absent
    exact iff_of_true rfl ⟨tails, by simp [absent]⟩

@[simp]
theorem checkLogOptions_strict (options : LogOptions) : (checkLogOptions options).Strict := by
  rw [checkLogOptions_eq]
  split
  · simp [Failure.kind]
  split
  · exact checkName_strict _ _
  · simp

@[simp]
theorem requiredText_strict (extensions : Extensions) (key : String) :
    (requiredText extensions key).Strict := by
  unfold requiredText
  split
  · split <;> simp [Failure.kind]
  · simp [Failure.kind]
  · simp [wrongType, Failure.kind]

@[simp]
theorem optionalBool_strict (extensions : Extensions) (key : String) :
    (optionalBool extensions key).Strict := by
  unfold optionalBool
  split <;> simp [wrongType, Failure.kind]

@[simp]
theorem optionalText_strict (extensions : Extensions) (key : String) :
    (optionalText extensions key).Strict := by
  unfold optionalText
  split <;> simp [wrongType, Failure.kind]

private theorem isInside_of_isBlankText {path : String} (blank : Text.isBlankText path = true) :
    IsInside path := by
  have blanks : ∀ c ∈ path.toList, Text.isBlank c = true := List.all_eq_true.mp blank
  constructor
  · intro c first
    have white := blanks c (List.mem_of_mem_head? first)
    constructor
    · rintro rfl
      exact absurd white (by decide)
    · rintro rfl
      exact absurd white (by decide)
  · rintro ⟨before, after, parts, -⟩
    have dot : '.' ∈ path.toList := by simp [parts]
    exact absurd (blanks '.' dot) (by decide)

/-- The extension for a path keeps its rule where the text that is taken from it does: no other one is
given, and a blank text is inside. -/
theorem hasPathInside_of_optionalText {extensions : Extensions} {text : Option String}
    (given : optionalText extensions "path" = .ok text) (inside : ∀ path ∈ text, IsInside path) :
    HasPathInside extensions := by
  intro value found
  rw [optionalText, Option.mem_def.mp found] at given
  cases value with
  | string path =>
    refine .inr ⟨path, rfl, ?_⟩
    by_cases blank : Text.isBlankText path = true
    · exact isInside_of_isBlankText blank
    · simp only [blank, Bool.false_eq_true, if_false] at given
      cases given
      exact inside path rfl
  | null => exact .inl rfl
  | _ => cases given

theorem hasPathInside_of_checkPath {extensions : Extensions} {text : Option String} {field : String}
    (default : String) (given : optionalText extensions "path" = .ok text)
    (checked : checkPath field (text.getD default) = .ok ()) : HasPathInside extensions := by
  refine hasPathInside_of_optionalText given fun path same => ?_
  cases same
  exact checkPath_ok_iff.mp checked

/-! What follows from a rule that was kept. -/

theorem ne_empty_of_checkName {field value : String} (checked : checkName field value = .ok ()) :
    value ≠ "" := by
  rintro rfl
  exact absurd (checkName_ok_iff.mp checked).size.1 (by decide)

/-- A name that is right for one field is right for every field. -/
theorem checkName_field {field other value : String} (checked : checkName field value = .ok ()) :
    checkName other value = .ok () :=
  checkName_ok_iff.mpr (checkName_ok_iff.mp checked)

theorem ne_empty_of_optionalText {extensions : Extensions} {key text : String}
    (given : optionalText extensions key = .ok (some text)) : text ≠ "" := by
  rintro rfl
  unfold optionalText at given
  split at given
  · cases given
  · cases given
  · split at given
    · cases given
    · rename_i s _ blank
      obtain rfl : s = "" := by simpa using given
      exact blank rfl
  · cases given

/-- A text that is required and there is one that may be there. -/
theorem optionalText_of_requiredText {extensions : Extensions} {key text : String}
    (given : requiredText extensions key = .ok text) : optionalText extensions key = .ok (some text) := by
  unfold requiredText at given
  unfold optionalText
  split at given
  · rename_i s there
    split at given
    · cases given
    · rename_i visible
      cases given
      simp [there, visible]
  · cases given
  · cases given

theorem ne_empty_of_requiredText {extensions : Extensions} {key text : String}
    (given : requiredText extensions key = .ok text) : text ≠ "" :=
  ne_empty_of_optionalText (optionalText_of_requiredText given)

end Rules

end DeploymentGateway
