import DeploymentGateway.Proofs.Text.Words
import DeploymentGateway.Proofs.Time.Stamp
/-!
The lenient form reads what is written in the usual one. Date and time of day are read with blanks allowed in
between or not; the data form of an instant has none, and ends with the letter for universal time.
-/

set_option autoImplicit false

namespace DeploymentGateway.Time

open Text

/-- Nothing but blanks is skipped. -/
def SkipsBlanks (space : List Char → List Char) : Prop :=
  ∀ c rest, isBlank c = false → space (c :: rest) = c :: rest

theorem skipsBlanks_id : SkipsBlanks id :=
  fun _ _ _ => rfl

theorem skipsBlanks_skipBlanks : SkipsBlanks skipBlanks :=
  fun _ _ solid => List.dropWhile_cons_of_neg (by simp [solid])

private theorem skipBlanks_paddedDecimal {width : Nat} (positive : 0 < width) (n : Nat) (rest : List Char) :
    skipBlanks ((paddedDecimal width n).toList ++ rest) = (paddedDecimal width n).toList ++ rest := by
  obtain ⟨digit, digits, shape, isDigit⟩ := exists_digit_paddedDecimal n positive
  rw [shape, List.cons_append, skipsBlanks_skipBlanks _ _ (isBlank_of_isDigit isDigit)]

private theorem readField_paddedDecimal {n : Nat} (fits : n < 10 ^ 2) (rest : List Char) :
    readField ((paddedDecimal 2 n).toList ++ rest) = some (n, rest) := by
  rw [readField, skipBlanks_paddedDecimal (by decide) n, readDigits_paddedDecimal (by decide) fits (by decide)]

private theorem readYear_paddedDecimal {n : Nat} (fits : n < 10 ^ 4) (rest : List Char) :
    readYear ((paddedDecimal 4 n).toList ++ rest) = some ((n : Int), rest) := by
  have read := readDigits_paddedDecimal (by decide : 1 ≤ 4) fits (by decide) rest
  have start := skipBlanks_paddedDecimal (by decide : 0 < 4) n rest
  obtain ⟨digit, digits, shape, isDigit⟩ := exists_digit_paddedDecimal n (by decide : 0 < 4)
  rw [shape] at read start ⊢
  rw [readYear, start]
  split
  · rename_i same
    exact absurd ((List.cons.inj same).1 ▸ isDigit) (by decide)
  · rename_i same
    exact absurd ((List.cons.inj same).1 ▸ isDigit) (by decide)
  · rw [read]
    rfl

theorem readDate_dateText {space : List Char → List Char} (blanks : SkipsBlanks space) {t : Instant}
    (ordinary : t.Ordinary) (rest : List Char) :
    readDate space ((dateText t.date).toList ++ rest) = some (t.date, rest) := by
  obtain ⟨month, day⟩ := date_bounds t
  have year := ordinary.year
  have yearNumber : ((t.date.year.toNat : Nat) : Int) = t.date.year := Int.toNat_of_nonneg year.1
  have hyphen (rest : List Char) : space ('-' :: rest) = '-' :: rest := blanks _ _ rfl
  rw [readDate, dateText_append, readYear_paddedDecimal (by omega), yearNumber]
  simp only [hyphen, Option.bind_eq_bind, Option.bind_some, skipChar_cons_self,
    readField_paddedDecimal (by omega : t.date.month < 10 ^ 2),
    readField_paddedDecimal (by omega : t.date.day < 10 ^ 2)]
  rfl

theorem readClock_clockText {space : List Char → List Char} (blanks : SkipsBlanks space) {t : Instant}
    (ordinary : t.Ordinary) {fraction rest : List Char} {c : Char}
    (shown : ShowsFraction fraction t.clock.nanosecond) (ends : EndsFraction c) :
    readClock space ((clockText t.clock).toList ++ (fraction ++ c :: rest)) = some (t.clock, c :: rest) := by
  obtain ⟨hour, minute, second, _⟩ := clock_bounds ordinary
  have colon (rest : List Char) : space (':' :: rest) = ':' :: rest := blanks _ _ rfl
  rw [readClock, clockText_append]
  simp only [colon, Option.bind_eq_bind, Option.bind_some, skipChar_cons_self, shown.readFraction_append ends,
    readField_paddedDecimal (by omega : t.clock.hour < 10 ^ 2),
    readField_paddedDecimal (by omega : t.clock.minute < 10 ^ 2),
    readField_paddedDecimal (by omega : t.clock.second < 10 ^ 2)]
  rfl

private theorem toList_text {t : Instant} (ordinary : t.Ordinary) :
    t.text.toList = (dateText t.date).toList ++ 'T' :: ((clockText t.clock).toList ++
      ((fractionText t.clock.nanosecond).toList ++ ['Z'])) := by
  have mark : "T".toList = ['T'] := rfl
  have zone : "Z".toList = ['Z'] := rfl
  simp only [Instant.text, Instant.stamp, yearText, if_pos ordinary.year, dateText, clockText,
    String.toList_append, List.append_assoc, mark, zone, List.cons_append, List.nil_append]

/-- An instant is read back from the form of data, leap seconds and all fractions included. -/
theorem readLenient?_text {t : Instant} (ordinary : t.Ordinary) : readLenient? t.text = some t := by
  obtain ⟨_, _, _, nanosecond⟩ := clock_bounds ordinary
  have clock : readClock skipBlanks ((clockText t.clock).toList ++
      ((fractionText t.clock.nanosecond).toList ++ ['Z'])) = some (t.clock, ['Z']) :=
    readClock_clockText skipsBlanks_skipBlanks ordinary (shows_fractionText nanosecond) ⟨by decide, by decide⟩
  have mark (rest : List Char) : skipDateMark ('T' :: rest) = some rest := rfl
  have zone : readNamedZone (skipBlanks ['Z']) = some (0, []) := rfl
  have nothing : (skipBlanks []).isEmpty = true := rfl
  rw [readLenient?, toList_text ordinary, readDate_dateText skipsBlanks_skipBlanks ordinary]
  simp only [Option.bind_eq_bind, Option.bind_some, mark, clock, zone, nothing]
  exact assemble?_universal ordinary

end DeploymentGateway.Time
