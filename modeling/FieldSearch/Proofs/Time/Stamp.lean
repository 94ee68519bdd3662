import FieldSearch.Literal
import FieldSearch.Proofs.Time.Calendar
import FieldSearch.Proofs.Time.Forms

/-! # Time stamps

A stamp is a date with fields of full width, with or without a time of day, with or without a zone. Stamps
are what date literals are meant to be. Every stamp of the calendar and the clock is read as the instant
that it shows, in whichever case its letters are and whatever white space is around it.
-/

namespace FieldSearch.Time

open Text

-- Powers are those of the core library, whatever else is imported.
attribute [local instance (2000)] instPowNat

/-- A time of day as it is written. -/
structure Clock where
  hour : Nat
  minute : Nat
  second : Nat
  /-- The digits of the fraction. There is no fraction without digits. -/
  fraction : List Char
  hour_lt : hour < 100 := by decide
  minute_lt : minute < 100 := by decide
  second_le : second ≤ 60 := by decide
  fraction_digits : ∀ c ∈ fraction, c.isDigit = true

/-- The hours and minutes by which clocks are ahead of UTC or behind, as they are written. -/
structure Offset where
  isAhead : Bool
  hours : Nat
  minutes : Nat
  hours_lt : hours < 100 := by decide
  minutes_lt : minutes < 100 := by decide

/-- A zone as it is written. -/
inductive Zone where
  | utc
  | shifted (offset : Offset)

/-- A date as it is written, with what follows it. -/
structure Stamp where
  year : Nat
  month : Nat
  day : Nat
  clock : Option Clock
  zone : Option Zone
  year_lt : year < 10000 := by decide
  month_lt : month < 100 := by decide
  day_lt : day < 100 := by decide

/-! ## Text -/

namespace Clock

/-- The digits of the fraction behind their point. -/
def renderFraction (clock : Clock) : List Char :=
  if clock.fraction = [] then [] else '.' :: clock.fraction

/-- The time as it is written, behind its letter. -/
def render (clock : Clock) : List Char :=
  paddedDigits 2 clock.hour ++ ':' :: (paddedDigits 2 clock.minute ++
    ':' :: (paddedDigits 2 clock.second ++ clock.renderFraction))

end Clock

/-- The zone as it is written. -/
def Zone.render : Zone → List Char
  | .utc => ['Z']
  | .shifted ⟨isAhead, hours, minutes, _, _⟩ =>
    (if isAhead then '+' else '-') :: (paddedDigits 2 hours ++ ':' :: paddedDigits 2 minutes)

namespace Stamp

/-- The date as it is written. -/
def renderDate (stamp : Stamp) : List Char :=
  paddedDigits 4 stamp.year ++ '-' :: (paddedDigits 2 stamp.month ++
    '-' :: paddedDigits 2 stamp.day)

/-- The time as it is written, if there is one. -/
def renderClock (stamp : Stamp) : List Char :=
  stamp.clock.elim [] fun clock => 'T' :: clock.render

/-- The zone as it is written, if there is one. -/
def renderZone (stamp : Stamp) : List Char :=
  stamp.zone.elim [] Zone.render

/-- The stamp as it is written. -/
def render (stamp : Stamp) : List Char :=
  stamp.renderDate ++ (stamp.renderClock ++ stamp.renderZone)

end Stamp

/-! ## Meaning -/

/-- A clock can show the time. Leap seconds are left out. -/
def Clock.Valid (clock : Clock) : Prop :=
  clock.hour ≤ 23 ∧ clock.minute ≤ 59 ∧ clock.second ≤ 59

instance (clock : Clock) : Decidable clock.Valid :=
  inferInstanceAs (Decidable (_ ∧ _))

/-- The seconds since midnight. -/
def Clock.seconds (clock : Clock) : Nat :=
  clock.hour * 3600 + clock.minute * 60 + clock.second

/-- The whole nanoseconds of the fraction. -/
def Clock.nanos (clock : Clock) : Nat :=
  ofDigits clock.fraction * nanosPerSecond / 10 ^ clock.fraction.length

/-- An offset is less than a day, in hours and minutes. -/
def Zone.Valid : Zone → Prop
  | .utc => True
  | .shifted offset => offset.hours ≤ 23 ∧ offset.minutes ≤ 59

instance (zone : Zone) : Decidable zone.Valid :=
  match zone with
  | .utc => inferInstanceAs (Decidable True)
  | .shifted _ => inferInstanceAs (Decidable (_ ∧ _))

/-- The seconds by which clocks are ahead of UTC. -/
def Zone.ahead : Zone → Int
  | .utc => 0
  | .shifted ⟨true, hours, minutes, _, _⟩ => (hours * 3600 + minutes * 60 : Nat)
  | .shifted ⟨false, hours, minutes, _, _⟩ => -(hours * 3600 + minutes * 60 : Nat)

namespace Stamp

/-- The date of the stamp. -/
def date (stamp : Stamp) : Date :=
  ⟨stamp.year, stamp.month, stamp.day⟩

/-- The stamp shows a day of the calendar, and a time and an offset that there are. -/
def Valid (stamp : Stamp) : Prop :=
  stamp.date.Proper ∧ (∀ clock ∈ stamp.clock, clock.Valid) ∧
    ∀ zone ∈ stamp.zone, zone.Valid

instance (stamp : Stamp) : Decidable stamp.Valid :=
  inferInstanceAs (Decidable (_ ∧ _))

/-- The whole seconds of the stamp in UTC since the start of 1970, if its date is the day of this number.
A stamp without a time shows the start of the day, and one without a zone shows UTC. -/
def seconds (stamp : Stamp) (number : Int) : Int :=
  number * 86400 + (stamp.clock.elim 0 Clock.seconds : Nat) - stamp.zone.elim 0 Zone.ahead

/-- The nanoseconds past the second. -/
def nanos (stamp : Stamp) : Nat :=
  stamp.clock.elim 0 Clock.nanos

end Stamp

/-! ## Stamps are read -/

theorem fixedField_two {n : Nat} (fits : n < 100) : FixedField 2 n (paddedDigits 2 n) :=
  fixedField_paddedDigits (by decide) fits

namespace Clock

private theorem fractionText (clock : Clock) : FractionText clock.nanos clock.renderFraction := by
  rw [nanos, renderFraction]
  split
  · rename_i none
    rw [none]
    exact .absent
  · rename_i some
    exact .present clock.fraction_digits some

theorem Valid.timeText {clock : Clock} (valid : clock.Valid) :
    FixedTime ⟨clock.seconds, clock.nanos⟩ clock.render := by
  obtain ⟨hour, minute, second⟩ := valid
  refine .mk (fixedField_two clock.hour_lt) (fixedField_two clock.minute_lt)
    (fixedField_two (by omega)) clock.fractionText ?_
  rw [TimeOfDay.of?, if_neg (by omega), if_neg (by omega), seconds]

end Clock

theorem Zone.Valid.zoneText {zone : Zone} (valid : zone.Valid) : ZoneText zone.ahead zone.render := by
  cases zone with
  | utc => exact .utc
  | shifted offset =>
    obtain ⟨isAhead, hours, minutes, hoursFit, minutesFit⟩ := offset
    have written (direction : Int) : OffsetText direction _ _ :=
      .mk (fixedField_two hoursFit) (fixedField_two minutesFit) valid.1 valid.2
    cases isAhead with
    | true =>
      have offset := written 1
      rw [Int.one_mul] at offset
      exact .ahead offset
    | false =>
      have offset := written (-1)
      rw [Int.neg_one_mul] at offset
      exact .behind (.inl rfl) offset

namespace Stamp

theorem length_renderDate (stamp : Stamp) : stamp.renderDate.length = 10 := by
  have year : (paddedDigits 4 stamp.year).length = 4 :=
    (fixedField_paddedDigits (by decide) stamp.year_lt).2
  have month := (fixedField_two stamp.month_lt).2
  have day := (fixedField_two stamp.day_lt).2
  simp [renderDate, year, month, day]

theorem Valid.dateText {stamp : Stamp} (valid : stamp.Valid) :
    FixedDate stamp.date stamp.renderDate := by
  have year := stamp.year_lt
  have inCalendar : firstYear ≤ (stamp.year : Int) ∧ (stamp.year : Int) ≤ lastYear := by
    rw [firstYear, lastYear]
    omega
  exact .mk ⟨stamp.year, rfl, fixedField_paddedDigits (by decide) year⟩
    (fixedField_two stamp.month_lt) (fixedField_two stamp.day_lt)
    ⟨inCalendar.1, inCalendar.2, valid.1⟩

/-- A stamp is written in the form that fits its parts, for the instant that it shows. -/
theorem Valid.written {stamp : Stamp} (valid : stamp.Valid) :
    Written ⟨stamp.seconds stamp.date.dayNumber, stamp.nanos⟩ stamp.render := by
  have dateText := valid.dateText
  obtain ⟨_, clocks, zones⟩ := valid
  have day : (secondsPerDay : Int) = 86400 := rfl
  rw [render, seconds, nanos, renderClock, renderZone]
  cases hasClock : stamp.clock with
  | none =>
    cases hasZone : stamp.zone with
    | none =>
      have form := PlainDate.mk (looseDate_of_fixed dateText)
      refine .inr (.inr (.inr ?_))
      simpa [Instant.of, TimeOfDay.midnight, day] using form
    | some zone =>
      have form := ZonedDate.mk dateText .absent (zones zone hasZone).zoneText
      refine .inr (.inr (.inl ?_))
      simpa [Instant.of, day] using form
  | some clock =>
    have timeText := (clocks clock hasClock).timeText
    cases hasZone : stamp.zone with
    | none =>
      have form := PlainDateTime.mk (looseDate_of_fixed dateText) (looseTime_of_fixed timeText)
      refine .inr (.inl ?_)
      simpa [Instant.of, day] using form
    | some zone =>
      have form := ZonedDateTime.mk dateText (.inl rfl) timeText (zones zone hasZone).zoneText
      refine .inl ?_
      simpa [Instant.of, day] using form

end Stamp

/-! ## Spelling -/

private theorem notBlank_of_mem_paddedDigits {width n : Nat} :
    ∀ c ∈ paddedDigits width n, isBlank c = false :=
  fun _ member => isBlank_eq_false_of_isDigit (isDigit_of_mem_paddedDigits member)

private theorem Clock.notBlank_of_mem_render (clock : Clock) : ∀ c ∈ clock.render, isBlank c = false := by
  have fraction : ∀ c ∈ clock.renderFraction, isBlank c = false := by
    rw [renderFraction]
    split
    · simp
    · exact List.forall_mem_cons.mpr ⟨by decide, fun c member =>
        isBlank_eq_false_of_isDigit (clock.fraction_digits c member)⟩
  have colon : isBlank ':' = false := by decide
  simpa only [render, List.forall_mem_append, List.forall_mem_cons, colon, true_and] using
    ⟨notBlank_of_mem_paddedDigits, notBlank_of_mem_paddedDigits, notBlank_of_mem_paddedDigits, fraction⟩

private theorem Zone.notBlank_of_mem_render (zone : Zone) : ∀ c ∈ zone.render, isBlank c = false := by
  cases zone with
  | utc => exact List.forall_mem_singleton.mpr (by decide)
  | shifted offset =>
    have sign : isBlank (if offset.isAhead then '+' else '-') = false := by
      split <;> decide
    have colon : isBlank ':' = false := by decide
    simpa only [render, List.forall_mem_append, List.forall_mem_cons, sign, colon, true_and] using
      ⟨notBlank_of_mem_paddedDigits, notBlank_of_mem_paddedDigits⟩

namespace Stamp

/-- There is no white space inside of a stamp. -/
theorem notBlank_of_mem_render (stamp : Stamp) : ∀ c ∈ stamp.render, isBlank c = false := by
  have dash : isBlank '-' = false := by decide
  have date : ∀ c ∈ stamp.renderDate, isBlank c = false := by
    simpa only [renderDate, List.forall_mem_append, List.forall_mem_cons, dash, true_and] using
      ⟨notBlank_of_mem_paddedDigits, notBlank_of_mem_paddedDigits, notBlank_of_mem_paddedDigits⟩
  have clock : ∀ c ∈ stamp.renderClock, isBlank c = false := by
    rw [renderClock]
    cases stamp.clock with
    | none => simp
    | some clock => exact List.forall_mem_cons.mpr ⟨by decide, clock.notBlank_of_mem_render⟩
  have zone : ∀ c ∈ stamp.renderZone, isBlank c = false := by
    rw [renderZone]
    cases stamp.zone with
    | none => simp
    | some zone => exact zone.notBlank_of_mem_render
  exact List.forall_mem_append.mpr ⟨date, List.forall_mem_append.mpr ⟨clock, zone⟩⟩

theorem render_ne_nil (stamp : Stamp) : stamp.render ≠ [] := by
  simp [render, renderDate]

end Stamp

/-- White space around a text and the case of its letters are no part of what is read. -/
theorem canonical_spelled {front spelling back text : List Char}
    (before : ∀ c ∈ front, isBlank c = true) (behind : ∀ c ∈ back, isBlank c = true)
    (spelled : spelling.map Char.toUpper = text) (nonempty : text ≠ [])
    (inside : ∀ c ∈ text, isBlank c = false) : canonical (front ++ spelling ++ back) = text := by
  subst spelled
  -- White space inside of the spelling would be white space in the text.
  have notBlank : ∀ c ∈ spelling, isBlank c = false := by
    intro c member
    rw [Bool.eq_false_iff]
    intro blank
    have upper := inside _ (List.mem_map_of_mem member)
    rw [toUpper_of_isBlank blank, blank] at upper
    cases upper
  have unpadded : Unpadded spelling :=
    ⟨fun c first => notBlank c (List.mem_of_mem_head? first),
      fun c last => notBlank c (List.mem_of_mem_getLast? last)⟩
  have nonempty : spelling ≠ [] := by
    rintro rfl
    exact nonempty rfl
  rw [canonical, trim_append before behind nonempty unpadded]

/-! ## Literals -/

/-- The milliseconds of an instant are its nanoseconds, rounded towards the past. -/
theorem Instant.millis_eq (instant : Instant) :
    instant.millis = (instant.seconds * 1000000000 + instant.nanos) / 1000000 := by
  rw [millis, nanosPerMilli]
  omega

theorem read_date_eq_ok_iff {text : String} {literal : Literal} :
    Literal.read .date text = .ok literal ↔
      ∃ instant, Written instant (canonical text.toList) ∧ literal = .instant instant := by
  simp only [← read_eq_ok_iff]
  rw [Literal.read, Literal.ofText]
  cases Time.read text.toList with
  | ok instant => simp [Bind.bind, Except.bind, Pure.pure, Except.pure, eq_comm]
  | error fault => simp [Bind.bind, Except.bind]

/-- A valid stamp, in whichever case and whatever white space is around it, is read as the instant that
it shows. The number of its day is the one at which counting days reaches its date. The instant is bound
as its milliseconds, rounded towards the past. -/
theorem Stamp.read_spelled (stamp : Stamp) (valid : stamp.Valid) (front spelling back : List Char)
    (before : ∀ c ∈ front, isBlank c = true) (behind : ∀ c ∈ back, isBlank c = true)
    (spelled : spelling.map Char.toUpper = stamp.render) :
    ∃ number, (∀ other, Date.Counted other stamp.date ↔ other = number) ∧
      Literal.read .date (String.ofList (front ++ spelling ++ back)) =
        .ok (.instant ⟨stamp.seconds number, stamp.nanos⟩) ∧
      (Literal.instant ⟨stamp.seconds number, stamp.nanos⟩).toSql =
        .timestamp ((stamp.seconds number * 1000000000 + stamp.nanos) / 1000000) := by
  refine ⟨stamp.date.dayNumber, fun _ => valid.1.counted_iff, ?_, ?_⟩
  · have same := canonical_spelled before behind spelled stamp.render_ne_nil stamp.notBlank_of_mem_render
    apply read_date_eq_ok_iff.mpr
    refine ⟨_, ?_, rfl⟩
    rw [String.toList_ofList, same]
    exact valid.written
  · rw [Literal.toSql, Instant.millis_eq]

/-- The end of the first second of year zero, on clocks that are a minute ahead of UTC. In UTC it lies in
the year before. -/
def Stamp.startOfYearZero : Stamp where
  year := 0
  month := 1
  day := 1
  clock := some {
    hour := 0, minute := 0, second := 0, fraction := List.replicate 10 '9'
    fraction_digits := List.forall_mem_replicate.mpr (by decide) }
  zone := some (.shifted { isAhead := true, hours := 0, minutes := 1 })

theorem Stamp.read_startOfYearZero :
    Stamp.startOfYearZero.Valid ∧ (∀ c ∈ ['\u3000', ' '], isBlank c = true) ∧
      (∀ c ∈ ['\n'], isBlank c = true) ∧
      "0000-01-01t00:00:00.9999999999+00:01".toList.map Char.toUpper = startOfYearZero.render ∧
      Literal.read .date "\u3000 0000-01-01t00:00:00.9999999999+00:01\n" =
        .ok (.instant ⟨-62167219260, 999999999⟩) ∧
      (Literal.instant ⟨-62167219260, 999999999⟩).toSql = .timestamp (-62167219259001) := by
  have valid : startOfYearZero.Valid := by decide
  have before : ∀ c ∈ ['\u3000', ' '], isBlank c = true := List.all_eq_true.mp (by decide)
  have behind : ∀ c ∈ ['\n'], isBlank c = true := List.all_eq_true.mp (by decide)
  have spelled : "0000-01-01t00:00:00.9999999999+00:01".toList.map Char.toUpper =
      startOfYearZero.render := by
    decide
  obtain ⟨number, counted, read, bound⟩ :=
    startOfYearZero.read_spelled valid _ _ _ before behind spelled
  have day : -719528 = startOfYearZero.date.dayNumber := by decide
  obtain rfl : -719528 = number := (counted _).mp (valid.1.counted_iff.mpr day)
  have seconds : startOfYearZero.seconds (-719528) = -62167219260 := by decide
  have nanos : startOfYearZero.nanos = 999999999 := by decide
  rw [seconds, nanos] at read bound
  exact ⟨valid, before, behind, spelled, read, bound⟩

end FieldSearch.Time
