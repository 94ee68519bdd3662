import FieldSearch.Proofs.Time.Acceptance
import FieldSearch.Proofs.Time.Order

/-! # Instants read back

An instant is written as a date and time in UTC, to the millisecond. If its year has four digits, the text is
a date literal of full width and is read as the same instant, with what is less than a millisecond cut off. A
year with a sign is no part of any zoned form, and without a zone a literal would end with a digit, so
then the text is no date literal at all.
-/

namespace FieldSearch.Time

open Text

-- Powers are those of the core library, whatever else is imported.
attribute [local instance (2000)] instPowNat

/-! ## What clocks show -/

namespace Instant

/-- A clock can show the instant: seconds are no longer than two, and only at the end of a minute are they
longer than one. -/
structure OnClock (instant : Instant) : Prop where
  nanos_lt : instant.nanos < 2 * nanosPerSecond
  leap : nanosPerSecond ≤ instant.nanos → instant.seconds % 60 = 59

/-- The instant, what is less than a millisecond cut off. A leap second stays one. -/
def wholeMillis (instant : Instant) : Instant :=
  ⟨instant.seconds, instant.nanos / nanosPerMilli * nanosPerMilli⟩

/-- Nothing that is cut off counts for milliseconds, or for leap seconds. -/
theorem wholeMillis_spec (instant : Instant) : instant.wholeMillis.millis = instant.millis ∧
    (nanosPerSecond ≤ instant.wholeMillis.nanos ↔ nanosPerSecond ≤ instant.nanos) := by
  unfold wholeMillis millis nanosPerSecond nanosPerMilli
  constructor
  · rw [Nat.mul_div_cancel _ (by decide)]
  · dsimp only
    omega

end Instant

private theorem leap_of_timeText {Field : Nat → List Char → Prop} {time : TimeOfDay} {text : List Char}
    (written : TimeText Field time text) : nanosPerSecond ≤ time.nanos → time.seconds % 60 = 59 := by
  obtain ⟨_, _, _, fraction, made⟩ := written
  have below := fraction.nanos_lt
  unfold TimeOfDay.of? at made
  split at made
  · cases made
  · split at made <;> cases made <;> dsimp only <;> omega

/-- Zones differ by whole minutes. -/
private theorem ZoneText.emod_sixty {ahead : Int} {text : List Char} (written : ZoneText ahead text) :
    ahead % 60 = 0 := by
  cases written with
  | utc => rfl
  | ahead offset =>
    obtain ⟨_, _, _, _⟩ := offset
    omega
  | behind _ offset =>
    obtain ⟨_, _, _, _⟩ := offset
    omega

/-- What is written for is shown by a clock, wherever in the world. -/
theorem Written.onClock {instant : Instant} {text : List Char} (written : Written instant text) :
    instant.OnClock := by
  refine ⟨written.nanos_lt, ?_⟩
  have day : (secondsPerDay : Int) = 86400 := rfl
  rcases written with zoned | plain | zonedDate | plainDate
  · obtain ⟨_, _, timeText, zoneText⟩ := zoned
    have leap := leap_of_timeText timeText
    have minutes := zoneText.emod_sixty
    simp only [Instant.of, day]
    omega
  · obtain ⟨_, timeText⟩ := plain
    have leap := leap_of_timeText timeText
    simp only [Instant.of, day]
    omega
  · obtain ⟨_, fraction, _⟩ := zonedDate
    have below := fraction.nanos_lt
    simp only [Instant.of]
    omega
  · obtain ⟨_⟩ := plainDate
    simp [Instant.of, TimeOfDay.midnight, nanosPerSecond]

/-! ## The text of an instant -/

namespace Instant

variable {instant : Instant}

/-- The time of day in UTC as it is written, to the millisecond. -/
private def clockText (instant : Instant) : List Char :=
  let second := (instant.seconds % secondsPerDay).toNat
  paddedDigits 2 (second / 3600) ++ ':' :: (paddedDigits 2 (second / 60 % 60) ++
    ':' :: (paddedDigits 2 (second % 60 + instant.nanos / nanosPerSecond) ++
      '.' :: paddedDigits 3 (instant.nanos % nanosPerSecond / nanosPerMilli)))

private theorem render_eq (instant : Instant) : instant.render =
    (renderYear instant.date.year ++ '-' :: (paddedDigits 2 instant.date.month ++
      '-' :: paddedDigits 2 instant.date.day)) ++ 'T' :: (instant.clockText ++ ['Z']) := by
  simp [render, clockText]

theorem dateText (first : 0 ≤ instant.date.year) (last : instant.date.year ≤ 9999) :
    FixedDate instant.date (renderYear instant.date.year ++ '-' :: (paddedDigits 2 instant.date.month ++
      '-' :: paddedDigits 2 instant.date.day)) := by
  have proper : instant.date.Proper := (Date.dayNumber_ofDayNumber _).1
  obtain ⟨month, day⟩ := proper.month_le_and_day_le
  have inCalendar : firstYear ≤ instant.date.year ∧ instant.date.year ≤ lastYear := by
    rw [firstYear, lastYear]
    omega
  rw [renderYear, if_pos ⟨first, last⟩]
  exact .mk ⟨instant.date.year.natAbs, by omega, fixedField_paddedDigits (by decide) (by omega)⟩
    (fixedField_two (by omega)) (fixedField_two (by omega)) ⟨inCalendar.1, inCalendar.2, proper⟩

private theorem fractionText_millis {millis : Nat} (fits : millis < 1000) :
    FractionText (millis * nanosPerMilli) ('.' :: paddedDigits 3 millis) := by
  obtain ⟨denotes, length⟩ := fixedField_paddedDigits (by decide : 0 < 3) fits
  have nonempty : paddedDigits 3 millis ≠ [] := by
    rw [← List.length_pos_iff, length]
    decide
  have written := FractionText.present denotes.digits nonempty
  have nanos : millis * nanosPerSecond / 10 ^ 3 = millis * nanosPerMilli := by
    rw [nanosPerSecond, nanosPerMilli]
    omega
  rwa [denotes.value, length, nanos] at written

theorem OnClock.timeText (onClock : instant.OnClock) :
    FixedTime ⟨(instant.seconds % secondsPerDay).toNat, instant.wholeMillis.nanos⟩ instant.clockText := by
  obtain ⟨nanos_lt, leap⟩ := onClock
  have day : (secondsPerDay : Int) = 86400 := rfl
  simp only [clockText, wholeMillis, day]
  have inDay : (instant.seconds % 86400).toNat < 86400 := by omega
  have leap : nanosPerSecond ≤ instant.nanos → (instant.seconds % 86400).toNat % 60 = 59 := by omega
  generalize (instant.seconds % 86400).toNat = second at inDay leap ⊢
  unfold nanosPerSecond at *
  refine .mk (fixedField_two (by omega)) (fixedField_two (by omega)) (fixedField_two (by omega))
    (fractionText_millis (by unfold nanosPerMilli; omega)) ?_
  unfold nanosPerMilli TimeOfDay.of? nanosPerSecond
  rw [if_neg (by omega)]
  -- The second that a clock shows beyond the fifty-ninth is a leap second.
  split <;> simp only [Option.some_inj, TimeOfDay.mk.injEq] <;> omega

/-- In years of four digits the text is written for the instant to the millisecond. -/
theorem OnClock.written_render (onClock : instant.OnClock) (first : 0 ≤ instant.date.year)
    (last : instant.date.year ≤ 9999) : Written instant.wholeMillis instant.render := by
  have written := ZonedDateTime.mk (dateText first last) (.inl rfl) onClock.timeText .utc
  have numbered : instant.date.dayNumber = instant.seconds / secondsPerDay := (Date.dayNumber_ofDayNumber _).2
  have day : (secondsPerDay : Int) = 86400 := rfl
  have total : instant.date.dayNumber * secondsPerDay + (instant.seconds % secondsPerDay).toNat - 0 =
      instant.seconds := by
    rw [numbered, day]
    omega
  rw [Instant.of, total] at written
  rw [render_eq]
  exact .inl written

/-! ## Canonical texts -/

/-- A character that neither trimming nor the upper case changes. -/
private def Fixed (c : Char) : Prop :=
  isBlank c = false ∧ c.toUpper = c

private instance (c : Char) : Decidable (Fixed c) :=
  inferInstanceAs (Decidable (_ ∧ _))

private theorem fixed_of_isDigit {c : Char} (digit : c.isDigit = true) : Fixed c := by
  refine ⟨isBlank_eq_false_of_isDigit digit, ?_⟩
  have bounds := Char.isDigit_iff_toNat.mp digit
  unfold Char.toUpper
  rw [dif_neg]
  rintro ⟨low, _⟩
  have low : 97 ≤ c.toNat := low
  have nine : '9'.toNat = 57 := by decide
  omega

private theorem fixed_of_mem_render (instant : Instant) : ∀ c ∈ instant.render, Fixed c := by
  have digits (width n : Nat) : ∀ c ∈ paddedDigits width n, Fixed c :=
    fun _ member => fixed_of_isDigit (isDigit_of_mem_paddedDigits member)
  have year : ∀ c ∈ renderYear instant.date.year, Fixed c := by
    unfold renderYear
    split
    · exact digits _ _
    · refine List.forall_mem_cons.mpr ⟨?_, digits _ _⟩
      split <;> decide
  have dash : Fixed '-' := by decide
  have letter : Fixed 'T' := by decide
  have colon : Fixed ':' := by decide
  have point : Fixed '.' := by decide
  have utc : Fixed 'Z' := by decide
  simp only [render_eq, clockText, List.forall_mem_append, List.forall_mem_cons, dash, letter, colon, point,
    utc, true_and]
  exact ⟨⟨year, digits _ _, digits _ _⟩, ⟨digits _ _, digits _ _, digits _ _, digits _ _⟩, by simp⟩

/-- The text of an instant is in canonical form. -/
theorem canonical_render (instant : Instant) : canonical instant.render = instant.render := by
  have fixed := instant.fixed_of_mem_render
  have upper : instant.render.map Char.toUpper = instant.render :=
    (List.map_congr_left fun c member => (fixed c member).2).trans (List.map_id _)
  have nonempty : instant.render ≠ [] := by simp [render_eq]
  have same : canonical ([] ++ instant.render ++ []) = instant.render :=
    canonical_spelled (by simp) (by simp) upper nonempty fun c member => (fixed c member).1
  rwa [List.nil_append, List.append_nil] at same

end Instant

/-! ## Texts that are not literals -/

/-- The last character is a digit. -/
private def EndsInDigit (text : List Char) : Prop :=
  ∃ front c, text = front ++ [c] ∧ c.isDigit = true

private theorem EndsInDigit.append {text : List Char} (ends : EndsInDigit text) (front : List Char) :
    EndsInDigit (front ++ text) := by
  obtain ⟨inner, c, rfl, digit⟩ := ends
  exact ⟨front ++ inner, c, (List.append_assoc _ _ _).symm, digit⟩

private theorem endsInDigit_of_digits {digits : List Char} (nonempty : digits ≠ [])
    (allDigits : ∀ c ∈ digits, c.isDigit = true) : EndsInDigit digits := by
  obtain ⟨front, c, rfl⟩ := (List.eq_nil_or_concat digits).resolve_left nonempty
  exact ⟨front, c, List.concat_eq_append, allDigits c (by simp)⟩

private theorem LooseField.endsInDigit {width n : Nat} {field : List Char}
    (written : LooseField width n field) : EndsInDigit field := by
  obtain ⟨blanks, digits, rfl, _, denotes, nonempty, _⟩ := written
  exact (endsInDigit_of_digits nonempty denotes.digits).append blanks

private theorem LooseDate.endsInDigit {date : Date} {text : List Char} (written : LooseDate date text) :
    EndsInDigit text := by
  obtain @⟨year, month, _, _, _, dayText, _⟩ := written
  have ends := dayText.endsInDigit.append (year ++ '-' :: (month ++ ['-']))
  simpa using ends

private theorem LooseTime.endsInDigit {time : TimeOfDay} {text : List Char} (written : LooseTime time text) :
    EndsInDigit text := by
  obtain @⟨_, _, _, _, hour, minute, second, _, _, _, _, secondText, fractionText, _⟩ := written
  cases fractionText with
  | absent =>
    have ends := secondText.endsInDigit.append (hour ++ ':' :: (minute ++ [':']))
    simpa using ends
  | present allDigits nonempty =>
    have ends := (endsInDigit_of_digits nonempty allDigits).append
      (hour ++ ':' :: (minute ++ ':' :: (second ++ ['.'])))
    simpa using ends

/-- A date of full width begins with a digit. -/
private theorem not_noDigitFirst_of_fixedDate {date : Date} {d rest : List Char} (written : FixedDate date d) :
    ¬ NoDigitFirst (d ++ rest) := by
  obtain ⟨⟨_, _, denotes, length⟩, _, _, _⟩ := written
  obtain ⟨c, digits, rfl⟩ := List.exists_cons_of_length_eq_add_one length
  intro noDigit
  have digit := denotes.digits c List.mem_cons_self
  rw [noDigit c rfl] at digit
  cases digit

/-- With a zone a date literal begins with a digit, and without one it ends with a digit. -/
theorem Written.not_noDigitFirst_or_endsInDigit {instant : Instant} {text : List Char}
    (written : Written instant text) : ¬ NoDigitFirst text ∨ EndsInDigit text := by
  rcases written with zoned | plain | zonedDate | plainDate
  · obtain ⟨dateText, _, _, _⟩ := zoned
    exact .inl (not_noDigitFirst_of_fixedDate dateText)
  · obtain @⟨_, _, d, _, _, timeText⟩ := plain
    have ends := (LooseTime.endsInDigit timeText).append (d ++ ['T'])
    exact .inr (by simpa using ends)
  · obtain ⟨dateText, _, _⟩ := zonedDate
    exact .inl (not_noDigitFirst_of_fixedDate dateText)
  · obtain ⟨dateText⟩ := plainDate
    exact .inr (LooseDate.endsInDigit dateText)

namespace Instant

/-- The text of an instant ends with the letter of UTC. -/
private theorem not_endsInDigit_render (instant : Instant) : ¬ EndsInDigit instant.render := by
  rintro ⟨front, c, same, digit⟩
  have last : instant.render.getLast? = some 'Z' := by
    rw [render_eq, List.getLast?_append_cons, List.getLast?_cons, List.getLast?_concat, Option.getD_some]
  rw [same, List.getLast?_concat] at last
  cases last
  cases digit

/-- A year with a sign is no part of a literal with a zone. -/
private theorem noDigitFirst_render {instant : Instant}
    (outside : ¬ (0 ≤ instant.date.year ∧ instant.date.year ≤ 9999)) : NoDigitFirst instant.render := by
  rw [render_eq, renderYear, if_neg outside]
  refine noDigitFirst_cons ?_ _
  split <;> decide

/-- The text of an instant is written for the instant to the millisecond if its year has four digits, and for
nothing else. -/
theorem OnClock.written_render_iff {instant other : Instant} (onClock : instant.OnClock) :
    Written other instant.render ↔
      (0 ≤ instant.date.year ∧ instant.date.year ≤ 9999) ∧ other = instant.wholeMillis := by
  constructor
  · intro written
    by_cases inside : 0 ≤ instant.date.year ∧ instant.date.year ≤ 9999
    · -- Both are written for in the same text, and reading it has one result.
      have read := read_eq_ok_iff.mpr (instant.canonical_render.symm ▸ written)
      have again := read_eq_ok_iff.mpr
        (instant.canonical_render.symm ▸ onClock.written_render inside.1 inside.2)
      exact ⟨inside, Except.ok.inj (read.symm.trans again)⟩
    · rcases written.not_noDigitFirst_or_endsInDigit with digitFirst | digitLast
      · exact absurd (noDigitFirst_render inside) digitFirst
      · exact absurd digitLast instant.not_endsInDigit_render
  · rintro ⟨⟨first, last⟩, rfl⟩
    exact onClock.written_render first last

end Instant

/-! ## Round trip -/

/-- A date literal is written again as a date literal exactly if its year in UTC has four digits, counted from
the day that the instant lies in, and it is then read as the same instant to the millisecond: bound alike,
and in a leap second if it was before. In any other year its text is no date literal. -/
theorem read_render_iff (text : String) (literal : Literal) (success : Literal.read .date text = .ok literal) :
    ∃ instant, literal = .instant instant ∧ Date.Counted (instant.seconds / 86400) instant.date ∧
      (∀ again, Literal.read .date literal.render = .ok again ↔
        (0 ≤ instant.date.year ∧ instant.date.year ≤ 9999) ∧ again = .instant instant.wholeMillis) ∧
      (∀ fault, Literal.read .date literal.render = .error fault ↔
        ¬ (0 ≤ instant.date.year ∧ instant.date.year ≤ 9999) ∧
          fault = .invalidLiteral .date literal.render .invalidDate) ∧
      (Literal.instant instant.wholeMillis).toSql = literal.toSql ∧
      (nanosPerSecond ≤ instant.wholeMillis.nanos ↔ nanosPerSecond ≤ instant.nanos) := by
  obtain ⟨instant, written, rfl⟩ := read_date_eq_ok_iff.mp success
  have again (other : Instant) : Written other (canonical (Literal.instant instant).render.toList) ↔
      (0 ≤ instant.date.year ∧ instant.date.year ≤ 9999) ∧ other = instant.wholeMillis := by
    rw [Literal.render, String.toList_ofList, instant.canonical_render]
    exact written.onClock.written_render_iff
  refine ⟨instant, rfl, Date.counted_iff.mpr rfl, ?_, ?_, ?_, instant.wholeMillis_spec.2⟩
  · intro literal
    rw [read_date_eq_ok_iff]
    simp only [again, and_assoc, exists_and_left, exists_eq_left]
  · intro fault
    rw [read_date_eq_error_iff]
    refine and_congr_left fun _ => ?_
    simp only [again]
    exact ⟨fun none inside => none _ ⟨inside, rfl⟩, fun outside _ written => outside written.1⟩
  · rw [Literal.toSql, Literal.toSql, instant.wholeMillis_spec.1]

private theorem render_instant {instant : Instant} {text : String} (shown : instant.render = text.toList) :
    (Literal.instant instant).render = text := by
  rw [Literal.render, shown, String.ofList_toList]

/-- Two literals from the end of a year. The leap second, in another zone and with a fraction beyond milliseconds,
is kept. The other one is in UTC already in the first year with five digits. -/
theorem read_render_atEndOfYear :
    (Literal.read .date "2017-01-01t00:59:60.9999999+01:00" = .ok (.instant ⟨1483228799, 1999999900⟩) ∧
      (Literal.instant ⟨1483228799, 1999999900⟩).render = "2016-12-31T23:59:60.999Z" ∧
      Literal.read .date "2016-12-31T23:59:60.999Z" = .ok (.instant ⟨1483228799, 1999000000⟩)) ∧
    (Literal.read .date "9999-12-31T23:59:59-00:01" = .ok (.instant ⟨253402300859, 0⟩) ∧
      (Literal.instant ⟨253402300859, 0⟩).render = "+10000-01-01T00:00:59.000Z" ∧
      Literal.read .date "+10000-01-01T00:00:59.000Z" =
        .error (.invalidLiteral .date "+10000-01-01T00:00:59.000Z" .invalidDate)) := by
  constructor
  · have success : Literal.read .date "2017-01-01t00:59:60.9999999+01:00" =
        .ok (.instant ⟨1483228799, 1999999900⟩) := by
      decide
    have text : (Literal.instant ⟨1483228799, 1999999900⟩).render = "2016-12-31T23:59:60.999Z" :=
      render_instant (by decide)
    obtain ⟨instant, same, _, again, _⟩ := read_render_iff _ _ success
    cases same
    rw [text] at again
    exact ⟨success, text, (again _).mpr ⟨by decide, rfl⟩⟩
  · have success : Literal.read .date "9999-12-31T23:59:59-00:01" = .ok (.instant ⟨253402300859, 0⟩) := by
      decide
    have text : (Literal.instant ⟨253402300859, 0⟩).render = "+10000-01-01T00:00:59.000Z" :=
      render_instant (by decide)
    obtain ⟨instant, same, _, _, fails, _⟩ := read_render_iff _ _ success
    cases same
    rw [text] at fails
    exact ⟨success, text, (fails _).mpr ⟨by decide, rfl⟩⟩

end FieldSearch.Time
