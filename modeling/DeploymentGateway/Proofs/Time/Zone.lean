import DeploymentGateway.Proofs.Text.Words
import DeploymentGateway.Proofs.Time.Stamp
/-!
Numeric zones: how they are written, with or without a mark between hours and minutes, and how far they are from
universal time.
-/

set_option autoImplicit false

namespace DeploymentGateway.Time

open Text

/-- A zone whose clocks are whole minutes, and less than a day, ahead of universal time or behind it. -/
structure Zone where
  behind : Bool
  hours : Nat
  minutes : Nat
  hours_lt : hours < 24
  minutes_lt : minutes < 60

namespace Zone

/-- The seconds that the clocks are ahead of universal time. -/
def seconds (zone : Zone) : Int :=
  let size : Int := zone.hours * 3600 + zone.minutes * 60
  if zone.behind then -size else size

/-- The sign of a zone. -/
def sign (zone : Zone) : Char :=
  if zone.behind then '-' else '+'

/-- Sign, hours and minutes, with what separates these. -/
def text (zone : Zone) (separator : String) : String :=
  String.singleton zone.sign ++ paddedDecimal 2 zone.hours ++ separator ++ paddedDecimal 2 zone.minutes

theorem natAbs_seconds_lt (zone : Zone) : zone.seconds.natAbs < secondsPerDay := by
  have hours := zone.hours_lt
  have minutes := zone.minutes_lt
  simp only [seconds, secondsPerDay]
  split <;> omega

/-- Each distance of whole minutes below a day is that of a zone. -/
theorem exists_seconds_eq {offset : Int} (whole : offset % 60 = 0) (short : offset.natAbs < secondsPerDay) :
    ∃ zone : Zone, zone.seconds = offset := by
  unfold secondsPerDay at short
  refine ⟨⟨decide (offset < 0), offset.natAbs / 3600, offset.natAbs / 60 % 60, by omega, by omega⟩, ?_⟩
  simp only [seconds, decide_eq_true_eq]
  split <;> omega

theorem sign_cases (zone : Zone) : zone.sign = '-' ∨ zone.sign = '+' := by
  unfold sign
  split
  · exact .inl rfl
  · exact .inr rfl

theorem sign_endsFraction (zone : Zone) : EndsFraction zone.sign := by
  rcases zone.sign_cases with sign | sign <;> rw [sign] <;> exact ⟨by decide, by decide⟩

theorem toList_text (zone : Zone) (separator : String) :
    (zone.text separator).toList = zone.sign :: ((paddedDecimal 2 zone.hours).toList ++
      (separator.toList ++ (paddedDecimal 2 zone.minutes).toList)) := by
  simp [text]

theorem solid_of_mem_text (zone : Zone) {c : Char} (mem : c ∈ (zone.text "").toList) : isBlank c = false := by
  have empty : "".toList = [] := rfl
  rw [toList_text, empty, List.nil_append] at mem
  rcases List.mem_cons.mp mem with rfl | digits
  · rcases zone.sign_cases with sign | sign <;> rw [sign] <;> rfl
  · rcases List.mem_append.mp digits with digit | digit <;>
      exact isBlank_of_isDigit (isDigit_of_mem_paddedDecimal digit)

/-- A zone is read back by a reader that skips what separates its hours and minutes. -/
theorem readOffset_text (zone : Zone) {skip : List Char → Option (List Char)} {separator : String}
    (skips : skip (separator.toList ++ (paddedDecimal 2 zone.minutes).toList) =
      some (paddedDecimal 2 zone.minutes).toList) :
    readOffset skip (zone.text separator).toList = some (zone.seconds, []) := by
  have hours := zone.hours_lt
  have minutes := zone.minutes_lt
  have signed (rest : List Char) : readZoneSign (zone.sign :: rest) = some (zone.behind, rest) := by
    unfold sign
    cases zone.behind <;> rfl
  have read_hours := readDigits_paddedDecimal (Nat.le_refl 2) (n := zone.hours) (by omega) (by decide)
    (separator.toList ++ (paddedDecimal 2 zone.minutes).toList)
  have read_minutes := readDigits_paddedDecimal (Nat.le_refl 2) (n := zone.minutes) (by omega) (by decide) []
  rw [List.append_nil] at read_minutes
  rw [readOffset, toList_text]
  simp only [signed, read_hours, skips, read_minutes, Option.bind_eq_bind, Option.bind_some,
    if_neg (Nat.not_le_of_lt minutes)]
  rfl

/-- The strict form reads a zone with a colon. -/
theorem readZone_text (zone : Zone) : readZone (skipChar ':') (zone.text ":").toList = some (zone.seconds, []) := by
  have offset : readOffset (skipChar ':') (zone.text ":").toList = some (zone.seconds, []) :=
    zone.readOffset_text rfl
  have no_letter {letter : Char} (other : letter ≠ '-' ∧ letter ≠ '+') : zone.sign ≠ letter := by
    rintro rfl
    rcases zone.sign_cases with sign | sign
    · exact other.1 sign
    · exact other.2 sign
  rw [toList_text] at offset ⊢
  rw [readZone]
  · exact offset
  · exact fun rest same => no_letter (by decide) (List.cons.inj same).1
  · exact fun rest same => no_letter (by decide) (List.cons.inj same).1

/-- The form of listings reads a zone without one. -/
theorem readOffset_text_bare (zone : Zone) :
    readOffset skipColonsAndBlanks (zone.text "").toList = some (zone.seconds, []) := by
  refine zone.readOffset_text ?_
  obtain ⟨digit, rest, shape, isDigit⟩ := exists_digit_paddedDecimal zone.minutes (by decide : 0 < 2)
  have no_colon : digit ≠ ':' := by
    rintro rfl
    exact absurd isDigit (by decide)
  have empty : "".toList = [] := rfl
  rw [empty, List.nil_append, shape, skipColonsAndBlanks,
    List.dropWhile_cons_of_neg (by simp [no_colon, isBlank_of_isDigit isDigit])]

end Zone

end DeploymentGateway.Time
