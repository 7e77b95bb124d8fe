import Mathlib.Tactic.IntervalCases
import DeploymentGateway.Time.Instant
/-!
Days by number and by date. Years are counted from March here, in eras of 400 years, so that a day is given by
its era, its year of the era, and its day of that year; the calendar date of such a day is valid, and leads back
to its number.
-/

set_option autoImplicit false

namespace DeploymentGateway.Time

/-- The first day of a year of an era, counted from that of the era. -/
def firstDay (year : Nat) : Nat :=
  year * 365 + year / 4 - year / 100 + year / 400

/-- The year that a day of an era lies in. -/
def yearOfDay (day : Nat) : Nat :=
  (day - day / 1460 + day / 36524 - day / 146096) / 365

private theorem yearOfDay_mono {day later : Nat} (h : day ≤ later) : yearOfDay day ≤ yearOfDay later := by
  induction later, h using Nat.le_induction with
  | base => exact Nat.le_refl _
  | succ later _ ih =>
    refine ih.trans (Nat.div_le_div_right ?_)
    omega

/-- The years of an era begin where they should and end there. -/
private theorem yearOfDay_bounds :
    ∀ year < 400, year ≤ yearOfDay (firstDay year) ∧ yearOfDay (firstDay (year + 1) - 1) ≤ year := by
  decide +kernel

private theorem exists_year {day : Nat} (years : Nat) (h : day < firstDay years) :
    ∃ year < years, firstDay year ≤ day ∧ day < firstDay (year + 1) := by
  induction years with
  | zero => exact absurd h (Nat.not_lt_zero day)
  | succ years ih =>
    by_cases before : day < firstDay years
    · obtain ⟨year, earlier, found⟩ := ih before
      exact ⟨year, earlier.trans (Nat.lt_succ_self years), found⟩
    · exact ⟨years, Nat.lt_succ_self years, Nat.le_of_not_lt before, h⟩

theorem yearOfDay_spec {day : Nat} (h : day < 146097) :
    yearOfDay day < 400 ∧ firstDay (yearOfDay day) ≤ day ∧ day < firstDay (yearOfDay day + 1) := by
  obtain ⟨year, inEra, first, last⟩ := exists_year 400 h
  obtain ⟨lower, upper⟩ := yearOfDay_bounds year inEra
  have same : yearOfDay day = year :=
    Nat.le_antisymm ((yearOfDay_mono (Nat.le_sub_one_of_lt last)).trans upper)
      (lower.trans (yearOfDay_mono first))
  rw [same]
  exact ⟨inEra, first, last⟩

/-- The month of a day of the year, counted from March. -/
def monthOfDay (day : Nat) : Nat :=
  (5 * day + 2) / 153

/-- The first day of a month, counted from March. -/
def firstOfMonth (month : Nat) : Nat :=
  (153 * month + 2) / 5

/-- The date of a day of a year of an era. -/
def dateOf (era : Int) (year day : Nat) : Date :=
  let month := monthOfDay day
  ⟨year + era * 400 + (if month < 10 then 0 else 1), if month < 10 then month + 3 else month - 9,
    day - firstOfMonth month + 1⟩

/-- A day of a year lies in one of its twelve months. -/
private theorem monthOfDay_bounds : ∀ day < 366, monthOfDay day < 12 ∧
    firstOfMonth (monthOfDay day) ≤ day ∧ day < firstOfMonth (monthOfDay day + 1) := by
  decide +kernel

private theorem day_lt {year day : Nat} (h : firstDay year + day < firstDay (year + 1)) :
    day < 366 := by
  unfold firstDay at h
  omega

private theorem ofDayNumber_eq (number : Int) : ∃ (era : Int) (year day : Nat), year < 400 ∧
    firstDay year + day < firstDay (year + 1) ∧
    number = era * 146097 + (firstDay year + day : Nat) - 719468 ∧
    Date.ofDayNumber number = dateOf era year day := by
  obtain ⟨dayOfEra, day_eq⟩ := Int.eq_ofNat_of_zero_le
    (Int.emod_nonneg (number + 719468) (by decide : (146097 : Int) ≠ 0))
  have inEra : dayOfEra < 146097 := by omega
  obtain ⟨year_lt, first, last⟩ := yearOfDay_spec inEra
  obtain ⟨day, split⟩ := Nat.exists_eq_add_of_le first
  have inYear : firstDay (yearOfDay dayOfEra) + day < firstDay (yearOfDay dayOfEra + 1) := by
    rw [← split]
    exact last
  refine ⟨(number + 719468) / 146097, yearOfDay dayOfEra, day, year_lt, inYear, ?_, ?_⟩
  · rw [← split]
    omega
  have year_eq : ((dayOfEra : Int) - dayOfEra / 1460 + dayOfEra / 36524 - dayOfEra / 146096) / 365 =
      (yearOfDay dayOfEra : Nat) := by
    unfold yearOfDay
    omega
  have doy_eq : (dayOfEra : Int) - (365 * (yearOfDay dayOfEra : Nat) + (yearOfDay dayOfEra : Nat) / 4 -
      (yearOfDay dayOfEra : Nat) / 100) = day := by
    have none : yearOfDay dayOfEra / 400 = 0 := by omega
    unfold firstDay at split
    omega
  have month_eq : (5 * (day : Int) + 2) / 153 = (monthOfDay day : Nat) := by
    unfold monthOfDay
    omega
  obtain ⟨month_lt, month_first, -⟩ := monthOfDay_bounds day (day_lt inYear)
  simp only [Date.ofDayNumber, day_eq, year_eq, doy_eq, month_eq, dateOf, Date.mk.injEq]
  unfold firstOfMonth at month_first ⊢
  refine ⟨?_, ?_, by omega⟩ <;> split <;> split <;> omega

private theorem dayNumber_dateOf (era : Int) {year day : Nat} (inEra : year < 400)
    (inYear : day < 366) :
    (dateOf era year day).dayNumber = era * 146097 + (firstDay year + day : Nat) - 719468 := by
  obtain ⟨month_lt, month_first, -⟩ := monthOfDay_bounds day inYear
  have fromMarch : (if (dateOf era year day).month ≤ 2 then (dateOf era year day).year - 1
      else (dateOf era year day).year) = year + era * 400 := by
    simp only [dateOf]
    split <;> split <;> omega
  have era_eq : ((year : Int) + era * 400) / 400 = era := by omega
  have year_eq : ((year : Int) + era * 400) % 400 = year := by omega
  have month_eq : (((dateOf era year day).month : Int) + 9) % 12 = monthOfDay day := by
    simp only [dateOf]
    split <;> omega
  simp only [Date.dayNumber, fromMarch, era_eq, year_eq, month_eq]
  simp only [dateOf, firstDay]
  unfold firstOfMonth at month_first ⊢
  omega

/-- The year that begins in March has a day more where its last day is a leap day. -/
private theorem isLeapYear_of_day {era : Int} {year : Nat}
    (inYear : firstDay year + 365 < firstDay (year + 1)) :
    isLeapYear (year + era * 400 + 1) = true := by
  unfold firstDay at inYear
  simp only [isLeapYear, Bool.and_eq_true, Bool.or_eq_true, beq_iff_eq, bne_iff_ne]
  omega

private theorem le_daysInMonth {year : Int} {month day : Nat} (month_lt : month < 12)
    (first : firstOfMonth month ≤ day) (last : day < firstOfMonth (month + 1)) (day_lt : day < 366)
    (leap : day < 365 ∨ isLeapYear (year + 1) = true) :
    day - firstOfMonth month + 1 ≤ daysInMonth (year + (if month < 10 then 0 else 1))
      (if month < 10 then month + 3 else month - 9) := by
  unfold firstOfMonth at first last ⊢
  rcases Nat.lt_or_eq_of_le (Nat.le_of_lt_succ month_lt) with before | rfl
  · interval_cases month <;> simp [daysInMonth] <;> omega
  · -- The year ends with February.
    simp only [daysInMonth, Nat.reduceSub, Nat.reduceLT, if_true, if_false]
    rcases leap with short | leap
    · split <;> omega
    · rw [if_pos leap]
      omega

private theorem isValid_dateOf (era : Int) {year day : Nat}
    (inYear : firstDay year + day < firstDay (year + 1)) :
    (dateOf era year day).isValid = true := by
  have leap : day < 365 ∨ isLeapYear (year + era * 400 + 1) = true := by
    by_cases last : day = 365
    · exact .inr (isLeapYear_of_day (last ▸ inYear))
    · have := day_lt inYear
      omega
  obtain ⟨month_lt, first, last⟩ := monthOfDay_bounds day (day_lt inYear)
  have inMonth := le_daysInMonth month_lt first last (day_lt inYear) leap
  have month_bounds : 1 ≤ (dateOf era year day).month ∧ (dateOf era year day).month ≤ 12 := by
    simp only [dateOf]
    split <;> omega
  simp only [Date.isValid, Bool.and_eq_true, decide_eq_true_eq]
  exact ⟨⟨month_bounds, Nat.le_add_left 1 _⟩, inMonth⟩

/-- The date of a day is a date of the calendar, and has the number of that day. -/
theorem dayNumber_ofDayNumber (number : Int) :
    (Date.ofDayNumber number).isValid = true ∧ (Date.ofDayNumber number).dayNumber = number := by
  obtain ⟨era, year, day, inEra, inYear, rfl, date⟩ := ofDayNumber_eq number
  rw [date]
  exact ⟨isValid_dateOf era inYear, dayNumber_dateOf era inEra (day_lt inYear)⟩

/-- Years go on as days do, with 146097 days in each 400 of them, but for a few years. -/
theorem year_ofDayNumber_near (number : Int) :
    400 * number - 1000000 ≤ 146097 * ((Date.ofDayNumber number).year - 1970) ∧
      146097 * ((Date.ofDayNumber number).year - 1970) ≤ 400 * number + 1000000 := by
  obtain ⟨era, year, day, inEra, inYear, rfl, date⟩ := ofDayNumber_eq number
  have day_lt := day_lt inYear
  rw [date]
  simp only [dateOf, firstDay]
  split <;> omega

end DeploymentGateway.Time
