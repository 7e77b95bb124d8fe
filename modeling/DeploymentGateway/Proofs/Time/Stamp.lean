import DeploymentGateway.Proofs.Time.Calendar
import DeploymentGateway.Time.Printer
import DeploymentGateway.Time.Reader
/-!
An instant can be read from how it is written. That holds in the years that are written with four digits, as
the strict form knows no others. Date and time of day may be those of any zone; the zone has to be told then.
-/

set_option autoImplicit false

namespace DeploymentGateway

/-! Numbers of a fixed width. -/

namespace Text

theorem decimalValue_eq_ofDigitChars {digits : List Char} (all : ∀ c ∈ digits, c.isDigit = true) :
    decimalValue digits = Nat.ofDigitChars 10 digits 0 := by
  have from_value (value : Nat) :
      digits.foldl (fun value c => value * 10 + (digitValue? c).getD 0) value =
        Nat.ofDigitChars 10 digits value := by
    induction digits generalizing value with
    | nil => rfl
    | cons c rest ih =>
      rw [List.foldl_cons, Nat.ofDigitChars_cons, ih fun c mem => all c (List.mem_cons_of_mem _ mem),
        digitValue?, if_pos (all c List.mem_cons_self), Option.getD_some, Nat.mul_comm]
  exact from_value 0

theorem isDigit_of_mem_paddedDecimal {width n : Nat} {c : Char} (mem : c ∈ (paddedDecimal width n).toList) :
    c.isDigit = true := by
  rw [paddedDecimal, String.toList_ofList] at mem
  rcases List.mem_append.mp mem with zero | digit
  · rw [(List.mem_replicate.mp zero).2]
    rfl
  · exact Nat.isDigit_of_mem_toDigits (by decide) (by decide) digit

theorem decimalValue_paddedDecimal (width n : Nat) :
    decimalValue (paddedDecimal width n).toList = n := by
  rw [decimalValue_eq_ofDigitChars fun c => isDigit_of_mem_paddedDecimal, paddedDecimal,
    String.toList_ofList, Nat.ofDigitChars_append, Nat.ofDigitChars_replicate_zero,
    Nat.mul_zero, Nat.ofDigitChars_toDigits (by decide) (by decide)]

theorem length_paddedDecimal {width n : Nat} (fits : n < 10 ^ width) (positive : 0 < width) :
    (paddedDecimal width n).toList.length = width := by
  have short := (Nat.length_toDigits_le_iff (by decide) positive).mpr fits
  rw [paddedDecimal, String.toList_ofList, List.length_append, List.length_replicate]
  omega

theorem paddedDecimal_ne_nil {width n : Nat} (positive : 0 < width) : (paddedDecimal width n).toList ≠ [] := by
  rw [paddedDecimal, String.toList_ofList, ← List.length_pos_iff, List.length_append, List.length_replicate]
  omega

theorem exists_digit_paddedDecimal {width : Nat} (n : Nat) (positive : 0 < width) :
    ∃ digit rest, (paddedDecimal width n).toList = digit :: rest ∧ digit.isDigit = true := by
  obtain ⟨digit, rest, shape⟩ := List.exists_cons_of_ne_nil (paddedDecimal_ne_nil (n := n) positive)
  exact ⟨digit, rest, shape, isDigit_of_mem_paddedDecimal (shape ▸ List.mem_cons_self)⟩

/-- Zeros behind the digits of a number make it larger by powers of ten. -/
theorem decimalValue_append_zeros {digits : List Char} (all : ∀ c ∈ digits, c.isDigit = true) (count : Nat) :
    decimalValue (digits ++ List.replicate count '0') = decimalValue digits * 10 ^ count := by
  have zeros : ∀ c ∈ digits ++ List.replicate count '0', c.isDigit = true := by
    intro c mem
    rcases List.mem_append.mp mem with digit | zero
    · exact all c digit
    · rw [(List.mem_replicate.mp zero).2]
      rfl
  rw [decimalValue_eq_ofDigitChars zeros, decimalValue_eq_ofDigitChars all, Nat.ofDigitChars_append,
    Nat.ofDigitChars_replicate_zero, Nat.mul_comm]

end Text

namespace Time

open Text

theorem readDigits_paddedDecimal {least width n : Nat} (atLeast : least ≤ width) (fits : n < 10 ^ width)
    (positive : 0 < width) (rest : List Char) :
    readDigits least (some width) ((paddedDecimal width n).toList ++ rest) = some (n, rest) := by
  have length := length_paddedDecimal fits positive
  have digits : ((paddedDecimal width n).toList ++ rest).takeWhile Char.isDigit =
      (paddedDecimal width n).toList ++ rest.takeWhile Char.isDigit :=
    List.takeWhile_append_of_pos fun c => isDigit_of_mem_paddedDecimal
  have taken : ((paddedDecimal width n).toList ++ rest.takeWhile Char.isDigit).take width =
      (paddedDecimal width n).toList := List.take_left' length
  rw [readDigits]
  simp only [digits, taken, length, Nat.not_lt_of_le atLeast, if_false, decimalValue_paddedDecimal]
  rw [List.drop_left' length]

theorem skipChar_cons_self (c : Char) (rest : List Char) : skipChar c (c :: rest) = some rest := by
  rw [skipChar, if_pos rfl]

/-! Fractions of a second. -/

/-- A fraction of a second with its point, or nothing at all, and the nanoseconds that it shows. -/
inductive ShowsFraction : List Char → Nat → Prop
  | absent : ShowsFraction [] 0
  | pointed {digits : List Char} (all : ∀ c ∈ digits, c.isDigit = true) (some : digits ≠ [])
      (atMost : digits.length ≤ 9) :
      ShowsFraction ('.' :: digits) (decimalValue digits * 10 ^ (9 - digits.length))

/-- What stands behind a fraction is no part of it. -/
def EndsFraction (c : Char) : Prop :=
  c ≠ '.' ∧ c.isDigit = false

namespace ShowsFraction

variable {fraction : List Char} {nanoseconds : Nat}

theorem readFraction_append (shown : ShowsFraction fraction nanoseconds) {c : Char} (ends : EndsFraction c)
    (rest : List Char) : readFraction (fraction ++ c :: rest) = some (nanoseconds, c :: rest) := by
  cases shown with
  | absent =>
    rw [List.nil_append, readFraction]
    rintro _ ⟨rfl, -⟩
    exact ends.1 rfl
  | @pointed digits all some_digit atMost =>
    have noDigit : ¬ c.isDigit = true := by simp [ends.2]
    have taken : ((digits ++ c :: rest).takeWhile Char.isDigit).take 9 = digits := by
      rw [List.takeWhile_append_of_pos all, List.takeWhile_cons_of_neg noDigit, List.append_nil,
        List.take_of_length_le atMost]
    have left : (digits ++ c :: rest).dropWhile Char.isDigit = c :: rest := by
      rw [List.dropWhile_append_of_pos all, List.dropWhile_cons_of_neg noDigit]
    rw [List.cons_append, readFraction, taken, left, if_neg (by simpa using some_digit)]
    rfl

theorem point_or_digit (shown : ShowsFraction fraction nanoseconds) {c : Char} (mem : c ∈ fraction) :
    c = '.' ∨ c.isDigit = true := by
  cases shown with
  | absent => exact absurd mem List.not_mem_nil
  | pointed all _ _ => exact (List.mem_cons.mp mem).imp_right (all c)

end ShowsFraction

theorem shows_fractionText {nanoseconds : Nat} (fits : nanoseconds < 10 ^ 9) :
    ShowsFraction (fractionText nanoseconds).toList nanoseconds := by
  have shown {width n : Nat} (whole : n * 10 ^ (9 - width) = nanoseconds) (positive : 0 < width)
      (atMost : width ≤ 9) : ShowsFraction ("." ++ paddedDecimal width n).toList nanoseconds := by
    have below : n < 10 ^ width := by
      refine Nat.lt_of_mul_lt_mul_right (a := 10 ^ (9 - width)) ?_
      rw [whole, ← Nat.pow_add, Nat.add_sub_cancel' atMost]
      exact fits
    have length := length_paddedDecimal below positive
    have pointed := ShowsFraction.pointed (fun c => isDigit_of_mem_paddedDecimal)
      (paddedDecimal_ne_nil positive) (length.trans_le atMost)
    rw [length, decimalValue_paddedDecimal, whole] at pointed
    rw [String.toList_append]
    exact pointed
  unfold fractionText
  split
  · rename_i zero
    rw [zero]
    exact .absent
  split
  · exact shown (by omega) (by decide) (by decide)
  split
  · exact shown (by omega) (by decide) (by decide)
  · exact shown (Nat.mul_one nanoseconds) (by decide) (by decide)

/-! Local date and time of day. -/

/-- An instant of a calendar with years of four digits. Only the last second of a minute has a leap second
after it. -/
structure Instant.Ordinary (t : Instant) : Prop where
  year : 0 ≤ t.date.year ∧ t.date.year ≤ 9999
  nanoseconds : t.nanoseconds < nanosecondsPerSecond ∨
    t.seconds % 60 = 59 ∧ t.nanoseconds < 2 * nanosecondsPerSecond

/-- The last second of a minute is the 59th, and the 60th if it is a leap second. -/
private theorem clock_cases {t : Instant} (ordinary : t.Ordinary) :
    t.nanoseconds < nanosecondsPerSecond ∧ t.clock.second < 60 ∧
        t.clock.second = t.seconds % 60 ∧ t.clock.nanosecond = t.nanoseconds ∨
      t.nanoseconds < 2 * nanosecondsPerSecond ∧ t.clock.second = 60 ∧ t.seconds % 60 = 59 ∧
        t.clock.nanosecond + nanosecondsPerSecond = t.nanoseconds := by
  by_cases leap : nanosecondsPerSecond ≤ t.nanoseconds
  · rcases ordinary.nanoseconds with short | ⟨last, fits⟩
    · exact absurd leap (Nat.not_le_of_lt short)
    · right
      simp only [Instant.clock, leap, if_true, secondsPerDay]
      omega
  · left
    have short := Nat.lt_of_not_le leap
    simp only [Instant.clock, leap, if_false, secondsPerDay, and_true]
    omega

/-- The time of day of an instant is one that clocks show. -/
theorem clock_bounds {t : Instant} (ordinary : t.Ordinary) :
    t.clock.hour < 24 ∧ t.clock.minute < 60 ∧ t.clock.second ≤ 60 ∧ t.clock.nanosecond < 10 ^ 9 := by
  have cases := clock_cases ordinary
  unfold nanosecondsPerSecond at cases
  have hour : t.clock.hour < 24 := by
    simp only [Instant.clock, secondsPerDay]
    omega
  have minute : t.clock.minute < 60 := Nat.mod_lt _ (by decide)
  omega

/-- The instant whose universal time is the local time of `t` where clocks are `offset` seconds ahead. -/
def Instant.ahead (t : Instant) (offset : Int) : Instant :=
  { t with seconds := t.seconds + offset }

private theorem date_isValid (t : Instant) : t.date.isValid = true :=
  (dayNumber_ofDayNumber (t.seconds / secondsPerDay)).1

private theorem dayNumber_date (t : Instant) : t.date.dayNumber = t.seconds / secondsPerDay :=
  (dayNumber_ofDayNumber (t.seconds / secondsPerDay)).2

theorem date_bounds (t : Instant) : t.date.month ≤ 12 ∧ t.date.day ≤ 31 := by
  have valid := date_isValid t
  have short : daysInMonth t.date.year t.date.month ≤ 31 := by
    unfold daysInMonth
    split_ifs <;> decide
  simp only [Date.isValid, Bool.and_eq_true, decide_eq_true_eq] at valid
  omega

/-- An instant is that of its local date and its local time of day. -/
private theorem ofLocal_date_clock {t : Instant} {offset : Int} (ordinary : (t.ahead offset).Ordinary) :
    Instant.ofLocal (t.ahead offset).date (t.ahead offset).clock offset = t := by
  have number := dayNumber_date (t.ahead offset)
  have hour : ((t.ahead offset).clock.hour : Int) = (t.seconds + offset) % 86400 / 3600 := by
    simp only [Instant.clock, Instant.ahead, secondsPerDay]
    omega
  have minute : ((t.ahead offset).clock.minute : Int) = (t.seconds + offset) % 86400 / 60 % 60 := by
    simp only [Instant.clock, Instant.ahead, secondsPerDay]
    omega
  unfold secondsPerDay at number
  simp only [Instant.ofLocal, number, secondsPerDay]
  have seconds : (t.ahead offset).seconds = t.seconds + offset := rfl
  have nanoseconds : (t.ahead offset).nanoseconds = t.nanoseconds := rfl
  rcases clock_cases ordinary with ⟨_, below, second, nanosecond⟩ | ⟨_, leap, second, nanosecond⟩
  · rw [if_neg below.ne, if_neg below.ne, nanosecond]
    congr 1
    omega
  · rw [if_pos leap, if_pos leap, nanosecond]
    congr 1
    omega

private theorem yearIsInRange_date {t : Instant} {offset : Int} (ordinary : (t.ahead offset).Ordinary)
    (short : offset.natAbs < secondsPerDay) : yearIsInRange t.date.year = true := by
  obtain ⟨_, after⟩ := year_ofDayNumber_near ((t.ahead offset).seconds / secondsPerDay)
  obtain ⟨lower, upper⟩ := year_ofDayNumber_near (t.seconds / secondsPerDay)
  have year := ordinary.year
  -- The offset moves the day by one at most, which leaves the year in its neighbourhood.
  simp only [Instant.date, Instant.ahead, secondsPerDay] at *
  simp only [yearIsInRange, Bool.and_eq_true, decide_eq_true_eq]
  omega

/-- An instant is put together from its local date, its local time of day and the offset of these. -/
theorem assemble?_ahead {t : Instant} {offset : Int} (ordinary : (t.ahead offset).Ordinary)
    (short : offset.natAbs < secondsPerDay) :
    assemble? (t.ahead offset).date (t.ahead offset).clock offset = some t := by
  obtain ⟨hour, minute, second, _⟩ := clock_bounds ordinary
  have year := ordinary.year
  have inRange : yearIsInRange (t.ahead offset).date.year = true := by
    simp only [yearIsInRange, Bool.and_eq_true, decide_eq_true_eq]
    omega
  simp only [assemble?, date_isValid, inRange, ofLocal_date_clock ordinary, yearIsInRange_date ordinary short]
  simp [hour, minute, second, short]

theorem assemble?_universal {t : Instant} (ordinary : t.Ordinary) : assemble? t.date t.clock 0 = some t := by
  have here : t.ahead 0 = t := by simp [Instant.ahead]
  have there : (t.ahead 0).Ordinary := here.symm ▸ ordinary
  have assembled := assemble?_ahead there (by decide)
  rwa [here] at assembled

/-! Date and time of day as they are written. -/

/-- A date of a year of four digits. -/
def dateText (date : Date) : String :=
  paddedDecimal 4 date.year.toNat ++ "-" ++ paddedDecimal 2 date.month ++ "-" ++ paddedDecimal 2 date.day

/-- A time of day without its fraction. -/
def clockText (clock : Clock) : String :=
  paddedDecimal 2 clock.hour ++ ":" ++ paddedDecimal 2 clock.minute ++ ":" ++ paddedDecimal 2 clock.second

theorem dateText_append (date : Date) (rest : List Char) :
    (dateText date).toList ++ rest = (paddedDecimal 4 date.year.toNat).toList ++ '-' ::
      ((paddedDecimal 2 date.month).toList ++ '-' :: ((paddedDecimal 2 date.day).toList ++ rest)) := by
  have hyphen : "-".toList = ['-'] := rfl
  simp only [dateText, String.toList_append, hyphen, List.append_assoc, List.cons_append, List.nil_append]

theorem clockText_append (clock : Clock) (rest : List Char) :
    (clockText clock).toList ++ rest = (paddedDecimal 2 clock.hour).toList ++ ':' ::
      ((paddedDecimal 2 clock.minute).toList ++ ':' :: ((paddedDecimal 2 clock.second).toList ++ rest)) := by
  have colon : ":".toList = [':'] := rfl
  simp only [clockText, String.toList_append, colon, List.append_assoc, List.cons_append, List.nil_append]

/-- The strict form reads date and time of day, and is left with the zone. -/
theorem readStrict?_stamp {t : Instant} (ordinary : t.Ordinary) {text : String} {mark c : Char}
    {fraction rest : List Char} (marked : mark = 'T' ∨ mark = 't' ∨ mark = ' ')
    (shown : ShowsFraction fraction t.clock.nanosecond) (ends : EndsFraction c)
    (written : text.toList =
      (dateText t.date).toList ++ mark :: ((clockText t.clock).toList ++ (fraction ++ c :: rest))) :
    readStrict? text = (readZone (skipChar ':') (c :: rest)).bind fun (offset, left) =>
      if left.isEmpty then assemble? t.date t.clock offset else none := by
  obtain ⟨hour, minute, second, nanosecond⟩ := clock_bounds ordinary
  obtain ⟨month, day⟩ := date_bounds t
  have year := ordinary.year
  have yearNumber : ((t.date.year.toNat : Nat) : Int) = t.date.year := Int.toNat_of_nonneg year.1
  have read {n width : Nat} (fits : n < 10 ^ width) (positive : 0 < width) {rest : List Char}
      {f : Nat × List Char → Option Instant} {result : Option Instant} (next : f (n, rest) = result) :
      (readDigits width (some width) ((paddedDecimal width n).toList ++ rest)).bind f = result := by
    rw [readDigits_paddedDecimal (Nat.le_refl width) fits positive, Option.bind_some, next]
  have skip {c : Char} {rest : List Char} {f : List Char → Option Instant} {result : Option Instant}
      (next : f rest = result) : (skipChar c (c :: rest)).bind f = result := by
    rw [skipChar_cons_self, Option.bind_some, next]
  have skipMark {rest : List Char} {f : List Char → Option Instant} {result : Option Instant}
      (next : f rest = result) : (skipDateMark (mark :: rest)).bind f = result := by
    rw [skipDateMark, if_pos marked, Option.bind_some, next]
  rw [readStrict?, written, dateText_append, clockText_append]
  refine read (by omega) (by decide) (skip (read (by omega) (by decide) (skip ?_)))
  refine read (by omega) (by decide) (skipMark (read (by omega) (by decide) (skip ?_)))
  refine read (by omega) (by decide) (skip (read (by omega) (by decide) ?_))
  simp only [shown.readFraction_append ends, Option.bind_eq_bind, Option.bind_some, yearNumber]
  congr 1
  funext ⟨offset, left⟩
  cases left <;> rfl

private theorem toList_textWithOffset {t : Instant} (ordinary : t.Ordinary) :
    t.textWithOffset.toList = (dateText t.date).toList ++ 'T' :: ((clockText t.clock).toList ++
      ((fractionText t.clock.nanosecond).toList ++ '+' :: ['0', '0', ':', '0', '0'])) := by
  have mark : "T".toList = ['T'] := rfl
  have offset : "+00:00".toList = ['+', '0', '0', ':', '0', '0'] := rfl
  simp only [Instant.textWithOffset, Instant.stamp, yearText, if_pos ordinary.year, dateText, clockText,
    String.toList_append, List.append_assoc, mark, offset, List.cons_append, List.nil_append]

/-- An instant can be read from its written form. -/
theorem readStrict?_textWithOffset {t : Instant} (ordinary : t.Ordinary) :
    readStrict? t.textWithOffset = some t := by
  obtain ⟨_, _, _, nanosecond⟩ := clock_bounds ordinary
  have zone : readZone (skipChar ':') ('+' :: ['0', '0', ':', '0', '0']) = some (0, []) := rfl
  rw [readStrict?_stamp ordinary (.inl rfl) (shows_fractionText nanosecond) ⟨by decide, by decide⟩
    (toList_textWithOffset ordinary), zone]
  exact assemble?_universal ordinary

end Time

end DeploymentGateway
