import DeploymentGateway.Proofs.Time.Lenient
import DeploymentGateway.Proofs.Time.Zone
/-!
Instants as the release manager writes them. Its listings have the local date, the local time of day, the numeric
zone and a word for it, and a fraction of as few digits as show it; its documents are in the strict form, with a
fraction that may be longer. Each of these is read back as the instant that it was written for.
-/

set_option autoImplicit false

namespace DeploymentGateway.Time

open Text

/-! Fractions of some number of digits. -/

/-- How many digits a fraction of a second needs, as zeros at its end can be left out. -/
def digitsNeeded (nanoseconds : Nat) : Nat :=
  (dropEndWhile (· == '0') (paddedDecimal 9 nanoseconds).toList).length

/-- The first digits of a fraction of a second, with a point before them where there are any. -/
def fractionTo (width nanoseconds : Nat) : String :=
  if width = 0 then "" else "." ++ String.ofList ((paddedDecimal 9 nanoseconds).toList.take width)

/-- Behind the digits that are needed there are zeros only. -/
private theorem drop_digits {nanoseconds width : Nat} (fits : nanoseconds < 10 ^ 9)
    (enough : digitsNeeded nanoseconds ≤ width) :
    (paddedDecimal 9 nanoseconds).toList.drop width = List.replicate (9 - width) '0' := by
  have length := length_paddedDecimal fits (by decide)
  obtain ⟨zeros, split, all⟩ := exists_eq_dropEndWhile_append (· == '0') (paddedDecimal 9 nanoseconds).toList
  refine List.eq_replicate_iff.mpr ⟨by rw [List.length_drop, length], fun c mem => ?_⟩
  rw [split, List.drop_append, List.drop_eq_nil_of_le enough, List.nil_append] at mem
  exact beq_iff_eq.mp (all c (List.mem_of_mem_drop mem))

theorem shows_fractionTo {nanoseconds width : Nat} (fits : nanoseconds < 10 ^ 9)
    (enough : digitsNeeded nanoseconds ≤ width) (atMost : width ≤ 9) :
    ShowsFraction (fractionTo width nanoseconds).toList nanoseconds := by
  have length : ((paddedDecimal 9 nanoseconds).toList.take width).length = width := by
    rw [List.length_take, length_paddedDecimal fits (by decide), Nat.min_eq_left atMost]
  have all : ∀ c ∈ (paddedDecimal 9 nanoseconds).toList.take width, c.isDigit = true :=
    fun c mem => isDigit_of_mem_paddedDecimal (List.mem_of_mem_take mem)
  have value : decimalValue ((paddedDecimal 9 nanoseconds).toList.take width) * 10 ^ (9 - width) = nanoseconds := by
    rw [← decimalValue_append_zeros all, ← drop_digits fits enough, List.take_append_drop,
      decimalValue_paddedDecimal]
  unfold fractionTo
  split
  · rename_i none
    have zero : nanoseconds = 0 := by
      rw [← value, none]
      exact Nat.zero_mul _
    rw [zero]
    exact .absent
  · rename_i some
    have pointed := ShowsFraction.pointed all (List.ne_nil_of_length_pos (by omega)) (length.trans_le atMost)
    rw [length, value] at pointed
    simp only [String.toList_append, String.toList_ofList]
    exact pointed

/-! The form of listings, word by word. -/

private theorem readZoned?_words {t : Instant} {zone : Zone} (ordinary : (t.ahead zone.seconds).Ordinary)
    {fraction : List Char} (shown : ShowsFraction fraction (t.ahead zone.seconds).clock.nanosecond) :
    readZoned? (dateText (t.ahead zone.seconds).date).toList
      ((clockText (t.ahead zone.seconds).clock).toList ++ fraction) (zone.text "").toList = some t := by
  have space : EndsFraction ' ' := ⟨by decide, by decide⟩
  have spaced (s : List Char) : readClock id (' ' :: s) = readClock id s := rfl
  have zone_next : skipBlanks (' ' :: (zone.text "").toList) = (zone.text "").toList := by
    have first : isBlank zone.sign = false :=
      zone.solid_of_mem_text (by rw [zone.toList_text]; exact List.mem_cons_self)
    have blank : isBlank ' ' = true := rfl
    rw [skipBlanks, List.dropWhile_cons_of_pos blank, zone.toList_text,
      List.dropWhile_cons_of_neg (by simp [first])]
  rw [readZoned?, readStamp, List.append_assoc, readDate_dateText skipsBlanks_id ordinary]
  simp only [Option.bind_eq_bind, Option.bind_some, List.cons_append, List.append_assoc, spaced,
    readClock_clockText skipsBlanks_id ordinary shown space]
  simp only [Option.pure_def, Option.bind_some, zone_next, zone.readOffset_text_bare]
  exact assemble?_ahead ordinary zone.natAbs_seconds_lt

/-! The forms. -/

/-- Date, time of day and some digits of the fraction of an instant, with a mark after the date. -/
def Instant.stampTo (t : Instant) (mark : Char) (width : Nat) : String :=
  dateText t.date ++ String.singleton mark ++ clockText t.clock ++ fractionTo width t.clock.nanosecond

/-- The form of a listing, with a word for the zone. -/
def Instant.listedText (t : Instant) (zone : Zone) (word : String) : String :=
  (t.ahead zone.seconds).stampTo ' ' (digitsNeeded t.clock.nanosecond) ++ " " ++ zone.text "" ++ " " ++ word

/-- How the release manager writes an instant whose year has four digits where it is written: in a listing with a
zone and any word for that zone, and elsewhere in the strict form with a zone or the letter for universal time. -/
inductive Written (t : Instant) : String → Prop
  | listed (zone : Zone) (word : String) (ordinary : (t.ahead zone.seconds).Ordinary) :
      Written t (t.listedText zone word)
  | zoned (zone : Zone) {mark : Char} (marked : mark = 'T' ∨ mark = 't') {width : Nat}
      (enough : digitsNeeded t.clock.nanosecond ≤ width) (atMost : width ≤ 9)
      (ordinary : (t.ahead zone.seconds).Ordinary) :
      Written t ((t.ahead zone.seconds).stampTo mark width ++ zone.text ":")
  | universal {mark : Char} (marked : mark = 'T' ∨ mark = 't') {letter : Char}
      (lettered : letter = 'Z' ∨ letter = 'z') {width : Nat}
      (enough : digitsNeeded t.clock.nanosecond ≤ width) (atMost : width ≤ 9) (ordinary : t.Ordinary) :
      Written t (t.stampTo mark width ++ String.singleton letter)

private theorem toList_stampTo_append (t : Instant) (mark : Char) (width : Nat) (rest : List Char) :
    (t.stampTo mark width).toList ++ rest = (dateText t.date).toList ++ mark :: ((clockText t.clock).toList ++
      ((fractionTo width t.clock.nanosecond).toList ++ rest)) := by
  simp [Instant.stampTo]

private theorem digitsNeeded_le {nanoseconds : Nat} (fits : nanoseconds < 10 ^ 9) :
    digitsNeeded nanoseconds ≤ 9 := by
  obtain ⟨zeros, split, _⟩ := exists_eq_dropEndWhile_append (· == '0') (paddedDecimal 9 nanoseconds).toList
  have length := congrArg List.length split
  rw [length_paddedDecimal fits (by decide), List.length_append] at length
  unfold digitsNeeded
  omega

/-- What the strict form makes of a stamp depends on the zone behind it. -/
private theorem readStrict?_stampTo {t : Instant} (ordinary : t.Ordinary) {text : String} {mark c : Char}
    {width : Nat} {rest : List Char} (marked : mark = 'T' ∨ mark = 't' ∨ mark = ' ') (ends : EndsFraction c)
    (enough : digitsNeeded t.clock.nanosecond ≤ width) (atMost : width ≤ 9)
    (written : text.toList = (t.stampTo mark width).toList ++ c :: rest) :
    readStrict? text = (readZone (skipChar ':') (c :: rest)).bind fun (offset, left) =>
      if left.isEmpty then assemble? t.date t.clock offset else none := by
  obtain ⟨_, _, _, nanosecond⟩ := clock_bounds ordinary
  rw [toList_stampTo_append] at written
  exact readStrict?_stamp ordinary marked (shows_fractionTo nanosecond enough atMost) ends written

private theorem readRelease?_of_readStrict? {text : String} {t : Instant} (read : readStrict? text = some t) :
    readRelease? text = some t := by
  rw [readRelease?, read]

private theorem readRelease?_zoned {t : Instant} (zone : Zone) {mark : Char} (marked : mark = 'T' ∨ mark = 't')
    {width : Nat} (enough : digitsNeeded t.clock.nanosecond ≤ width) (atMost : width ≤ 9)
    (ordinary : (t.ahead zone.seconds).Ordinary) :
    readRelease? ((t.ahead zone.seconds).stampTo mark width ++ zone.text ":") = some t := by
  have written := String.toList_append (s := (t.ahead zone.seconds).stampTo mark width) (t := zone.text ":")
  have zoned := zone.readZone_text
  rw [zone.toList_text] at written zoned
  have read := readStrict?_stampTo ordinary (marked.imp_right .inl) zone.sign_endsFraction enough atMost written
  rw [zoned, Option.bind_some] at read
  exact readRelease?_of_readStrict? (read.trans (assemble?_ahead ordinary zone.natAbs_seconds_lt))

private theorem readRelease?_universal {t : Instant} {mark letter : Char} (marked : mark = 'T' ∨ mark = 't')
    (lettered : letter = 'Z' ∨ letter = 'z') {width : Nat} (enough : digitsNeeded t.clock.nanosecond ≤ width)
    (atMost : width ≤ 9) (ordinary : t.Ordinary) :
    readRelease? (t.stampTo mark width ++ String.singleton letter) = some t := by
  have written : (t.stampTo mark width ++ String.singleton letter).toList =
      (t.stampTo mark width).toList ++ [letter] := by
    simp
  have ends : EndsFraction letter := by
    rcases lettered with rfl | rfl <;> exact ⟨by decide, by decide⟩
  have zoned : readZone (skipChar ':') [letter] = some (0, []) := by
    rcases lettered with rfl | rfl <;> rfl
  have read := readStrict?_stampTo ordinary (marked.imp_right .inl) ends enough atMost written
  rw [zoned, Option.bind_some] at read
  exact readRelease?_of_readStrict? (read.trans (assemble?_universal ordinary))

private theorem solid_of_mem_paddedDecimal {width n : Nat} {c : Char} (mem : c ∈ (paddedDecimal width n).toList) :
    isBlank c = false :=
  isBlank_of_isDigit (isDigit_of_mem_paddedDecimal mem)

private theorem dateText_word (date : Date) :
    (dateText date).toList ≠ [] ∧ ∀ c ∈ (dateText date).toList, isBlank c = false := by
  have shape := dateText_append date []
  rw [List.append_nil] at shape
  rw [shape]
  refine ⟨by simp, fun c mem => ?_⟩
  simp only [List.mem_append, List.mem_cons, List.not_mem_nil, or_false] at mem
  rcases mem with digit | rfl | digit | rfl | digit
  · exact solid_of_mem_paddedDecimal digit
  · rfl
  · exact solid_of_mem_paddedDecimal digit
  · rfl
  · exact solid_of_mem_paddedDecimal digit

private theorem clockText_word (clock : Clock) {fraction : List Char} {nanoseconds : Nat}
    (shown : ShowsFraction fraction nanoseconds) :
    (clockText clock).toList ++ fraction ≠ [] ∧
      ∀ c ∈ (clockText clock).toList ++ fraction, isBlank c = false := by
  rw [clockText_append]
  refine ⟨by simp, fun c mem => ?_⟩
  simp only [List.mem_append, List.mem_cons] at mem
  rcases mem with digit | rfl | digit | rfl | digit | behind
  · exact solid_of_mem_paddedDecimal digit
  · rfl
  · exact solid_of_mem_paddedDecimal digit
  · rfl
  · exact solid_of_mem_paddedDecimal digit
  · rcases shown.point_or_digit behind with rfl | digit
    · rfl
    · exact isBlank_of_isDigit digit

private theorem readRelease?_listed {t : Instant} (zone : Zone) (word : String)
    (ordinary : (t.ahead zone.seconds).Ordinary) : readRelease? (t.listedText zone word) = some t := by
  have nanosecond : t.clock.nanosecond < 10 ^ 9 := (clock_bounds ordinary).2.2.2
  have atMost := digitsNeeded_le nanosecond
  have shown := shows_fractionTo nanosecond (Nat.le_refl _) atMost
  have blank : isBlank ' ' = true := rfl
  have written : (t.listedText zone word).toList =
      ((t.ahead zone.seconds).stampTo ' ' (digitsNeeded t.clock.nanosecond)).toList ++
        ' ' :: ((zone.text "").toList ++ ' ' :: word.toList) := by
    simp [Instant.listedText]
  have strict : readStrict? (t.listedText zone word) = none :=
    readStrict?_stampTo ordinary (.inr (.inr rfl)) ⟨by decide, by decide⟩ (Nat.le_refl _) atMost written
  have split : words (t.listedText zone word).toList = (dateText (t.ahead zone.seconds).date).toList ::
      ((clockText (t.ahead zone.seconds).clock).toList ++
        (fractionTo (digitsNeeded t.clock.nanosecond) t.clock.nanosecond).toList) :: (zone.text "").toList ::
      words word.toList := by
    obtain ⟨dated, date_solid⟩ := dateText_word (t.ahead zone.seconds).date
    obtain ⟨timed, time_solid⟩ := clockText_word (t.ahead zone.seconds).clock shown
    have zoned : (zone.text "").toList ≠ [] := by
      rw [zone.toList_text]
      exact List.cons_ne_nil _ _
    rw [written, toList_stampTo_append, words_append dated date_solid blank, ← List.append_assoc]
    exact congrArg _ ((words_append timed time_solid blank _).trans
      (congrArg _ (words_append zoned (fun c => zone.solid_of_mem_text) blank _)))
  have zoned : readZoned? _ _ (zone.text "").toList = some t := readZoned?_words ordinary shown
  simp only [readRelease?, strict, split]
  rw [zoned]
  rfl

/-- An instant is read from each of the ways in which it is written. -/
theorem readRelease?_of_written {t : Instant} {text : String} (written : Written t text) :
    readRelease? text = some t := by
  cases written with
  | listed zone word ordinary => exact readRelease?_listed zone word ordinary
  | zoned zone marked enough atMost ordinary => exact readRelease?_zoned zone marked enough atMost ordinary
  | universal marked lettered enough atMost ordinary =>
    exact readRelease?_universal marked lettered enough atMost ordinary

end DeploymentGateway.Time
