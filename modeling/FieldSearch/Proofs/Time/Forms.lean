import FieldSearch.Proofs.Time.Notation

/-! # The four forms of a date literal

A date literal is accepted exactly if its canonical text is written in one of four forms, and its instant is
the one that the form gives to the parts. With a zone all fields have their full width, but the letter
between date and time may be a space, the sign of the zone a proper minus sign, and a fraction may
stand without a time. Without a zone all fields are loose.
-/

namespace FieldSearch.Time

open Text

/-- The date is written with fields of full width. -/
abbrev FixedDate : Date → List Char → Prop :=
  DateText FixedYear (FixedField 2)

/-- The date is written with loose fields. -/
abbrev LooseDate : Date → List Char → Prop :=
  DateText LooseYear (LooseField 2)

/-- The time is written with fields of full width. -/
abbrev FixedTime : TimeOfDay → List Char → Prop :=
  TimeText (FixedField 2)

/-- The time is written with loose fields. -/
abbrev LooseTime : TimeOfDay → List Char → Prop :=
  TimeText (LooseField 2)

/-! ## Dates and times of the forms -/

/-- Read a year of four digits. -/
private def fixedYear : Reading Int := fun text =>
  (fixedNumber 4 text).map fun (year, rest) => ((year : Int), rest)

private theorem reads_fixedYear (Stops : List Char → Prop) : Reads fixedYear FixedYear Stops where
  sound := by
    intro text rest year read
    obtain ⟨⟨n, _⟩, number, same⟩ := Option.map_eq_some_iff.mp read
    cases same
    obtain ⟨field, rfl, written⟩ := (reads_fixedNumber 4 Stops).sound number
    exact ⟨field, rfl, n, rfl, written⟩
  complete := by
    rintro field rest year ⟨n, rfl, written⟩ stops
    rw [fixedYear, (reads_fixedNumber 4 Stops).complete written stops]
    rfl

theorem reads_fixedDate : Reads fixedDate FixedDate NoDigitFirst := by
  have same : fixedDate = readDate fixedYear (fixedNumber 2) := by
    funext text
    rw [fixedDate, readDate, fixedYear]
    cases fixedNumber 4 text <;> rfl
  exact same ▸ reads_date (reads_fixedYear _) (reads_fixedNumber 2 _)

theorem reads_looseDate : Reads looseDate LooseDate NoDigitFirst :=
  reads_date reads_looseYear (reads_looseNumber 2)

theorem reads_fixedTime : Reads fixedTime FixedTime NoFractionFirst :=
  reads_time (reads_fixedNumber 2 _)

theorem reads_looseTime : Reads looseTime LooseTime NoFractionFirst :=
  reads_time (reads_looseNumber 2)

/-! ## The forms -/

/-- A date and a time with fields of full width, and a zone. -/
inductive ZonedDateTime : Instant → List Char → Prop
  | mk {date : Date} {time : TimeOfDay} {ahead : Int} {separator : Char} {d t z : List Char} :
      FixedDate date d → separator = 'T' ∨ separator = ' ' → FixedTime time t → ZoneText ahead z →
      ZonedDateTime (.of date time ahead) (d ++ separator :: (t ++ z))

/-- A date and a time with loose fields, in UTC. -/
inductive PlainDateTime : Instant → List Char → Prop
  | mk {date : Date} {time : TimeOfDay} {d t : List Char} : LooseDate date d → LooseTime time t →
      PlainDateTime (.of date time 0) (d ++ 'T' :: t)

/-- A date with fields of full width, with or without a fraction of its first second, and a zone. -/
inductive ZonedDate : Instant → List Char → Prop
  | mk {date : Date} {nanos : Nat} {ahead : Int} {d f z : List Char} : FixedDate date d →
      FractionText nanos f → ZoneText ahead z → ZonedDate (.of date ⟨0, nanos⟩ ahead) (d ++ (f ++ z))

/-- A date with loose fields, in UTC. -/
inductive PlainDate : Instant → List Char → Prop
  | mk {date : Date} {d : List Char} : LooseDate date d → PlainDate (.of date .midnight 0) d

theorem plainDate?_eq_some_iff {text : List Char} {instant : Instant} :
    plainDate? text = some instant ↔ PlainDate instant text := by
  simp only [plainDate?, Option.bind_eq_bind, Option.bind_eq_some_iff, Prod.exists,
    Option.ite_none_right_eq_some, Option.some_inj]
  constructor
  · rintro ⟨date, _, read, rfl, rfl⟩
    exact .mk ((reads_looseDate.whole_iff noDigitFirst_nil).mp read)
  · rintro ⟨written⟩
    exact ⟨_, [], (reads_looseDate.whole_iff noDigitFirst_nil).mpr written, rfl, rfl⟩

theorem plainDateTime?_eq_some_iff {text : List Char} {instant : Instant} :
    plainDateTime? text = some instant ↔ PlainDateTime instant text := by
  simp only [plainDateTime?, Option.bind_eq_bind, Option.bind_eq_some_iff, Prod.exists,
    Option.ite_none_right_eq_some, Option.some_inj, skip?_eq_some_iff]
  constructor
  · rintro ⟨date, _, readDate, _, rfl, time, _, readTime, rfl, rfl⟩
    obtain ⟨d, rfl, dateText⟩ := reads_looseDate.sound readDate
    exact .mk dateText ((reads_looseTime.whole_iff noFractionFirst_nil).mp readTime)
  · rintro @⟨date, time, d, t, dateText, timeText⟩
    have afterDate := reads_looseDate.complete dateText (noDigitFirst_cons (c := 'T') (by decide) t)
    have afterTime := (reads_looseTime.whole_iff noFractionFirst_nil).mpr timeText
    exact ⟨date, 'T' :: t, afterDate, t, rfl, time, [], afterTime, rfl, rfl⟩

theorem zonedDate?_eq_some_iff {text : List Char} {instant : Instant} :
    zonedDate? text = some instant ↔ ZonedDate instant text := by
  simp only [zonedDate?, Option.bind_eq_bind, Option.bind_eq_some_iff, Prod.exists,
    Option.ite_none_right_eq_some, Option.some_inj]
  constructor
  · rintro ⟨date, _, readDate, nanos, _, readFraction, ahead, _, readZone, rfl, rfl⟩
    obtain ⟨d, rfl, dateText⟩ := reads_fixedDate.sound readDate
    obtain ⟨f, rfl, fractionText⟩ := reads_fraction.sound readFraction
    exact .mk dateText fractionText (zone_eq_whole_iff.mp readZone)
  · rintro @⟨date, nanos, ahead, d, f, z, dateText, fractionText, zoneText⟩
    have stops := zoneText.noFractionFirst
    have afterDate := reads_fixedDate.complete dateText (fractionText.noDigitFirst_append stops)
    have afterFraction := reads_fraction.complete fractionText stops
    have afterZone := zone_eq_whole_iff.mpr zoneText
    exact ⟨date, f ++ z, afterDate, nanos, z, afterFraction, ahead, [], afterZone, rfl, rfl⟩

/-- Read the time and the zone behind a date. -/
private def zonedTime? (date : Date) (text : List Char) : Option Instant := do
  let (time, rest) ← fixedTime text
  let (ahead, rest) ← zone rest
  if rest = [] then some (.of date time ahead) else none

private theorem zonedTime?_eq_some_iff {date : Date} {text : List Char} {instant : Instant} :
    zonedTime? date text = some instant ↔ ∃ time ahead t z, FixedTime time t ∧ ZoneText ahead z ∧
      text = t ++ z ∧ instant = .of date time ahead := by
  simp only [zonedTime?, Option.bind_eq_bind, Option.bind_eq_some_iff, Prod.exists,
    Option.ite_none_right_eq_some, Option.some_inj]
  constructor
  · rintro ⟨time, _, readTime, ahead, _, readZone, rfl, rfl⟩
    obtain ⟨t, rfl, timeText⟩ := reads_fixedTime.sound readTime
    exact ⟨time, ahead, t, _, timeText, zone_eq_whole_iff.mp readZone, rfl, rfl⟩
  · rintro ⟨time, ahead, t, z, timeText, zoneText, rfl, rfl⟩
    have stops := zoneText.noFractionFirst
    have afterTime := reads_fixedTime.complete timeText stops
    have afterZone := zone_eq_whole_iff.mpr zoneText
    exact ⟨time, z, afterTime, ahead, [], afterZone, rfl, rfl⟩

private theorem zonedDateTime?_eq (text : List Char) :
    zonedDateTime? text = (fixedDate text).bind fun (date, rest) =>
      match rest with
      | [] => none
      | separator :: rest =>
        if separator = 'T' ∨ separator = ' ' then zonedTime? date rest else none := by
  rw [zonedDateTime?]
  cases fixedDate text with
  | none => rfl
  | some read =>
    obtain ⟨date, rest⟩ := read
    dsimp only [Option.bind_eq_bind, Option.bind_some]
    split
    · rfl
    · rfl
    · rename_i notLetter notSpace
      cases rest with
      | nil => rfl
      | cons separator rest =>
        have other : ¬ (separator = 'T' ∨ separator = ' ') := by
          rintro (rfl | rfl)
          · exact notLetter rest rfl
          · exact notSpace rest rfl
        exact (if_neg other).symm

theorem zonedDateTime?_eq_some_iff {text : List Char} {instant : Instant} :
    zonedDateTime? text = some instant ↔ ZonedDateTime instant text := by
  rw [zonedDateTime?_eq, Option.bind_eq_some_iff]
  constructor
  · rintro ⟨⟨date, rest⟩, readDate, read⟩
    obtain ⟨d, rfl, dateText⟩ := reads_fixedDate.sound readDate
    cases rest with
    | nil => cases read
    | cons separator rest =>
      obtain ⟨apart, read⟩ := Option.ite_none_right_eq_some.mp read
      obtain ⟨time, ahead, t, z, timeText, zoneText, rfl, rfl⟩ := zonedTime?_eq_some_iff.mp read
      exact .mk dateText apart timeText zoneText
  · rintro @⟨date, time, ahead, separator, d, t, z, dateText, apart, timeText, zoneText⟩
    have stops : NoDigitFirst (separator :: (t ++ z)) := by
      rcases apart with rfl | rfl <;> exact noDigitFirst_cons (by decide) _
    have behind : zonedTime? date (t ++ z) = some (.of date time ahead) :=
      zonedTime?_eq_some_iff.mpr ⟨time, ahead, t, z, timeText, zoneText, rfl, rfl⟩
    exact ⟨_, reads_fixedDate.complete dateText stops, by simp only [if_pos apart, behind]⟩

/-! ## No text has two forms -/

private theorem looseField_of_fixed {width n : Nat} {field : List Char} (positive : 0 < width)
    (written : FixedField width n field) : LooseField width n field := by
  obtain ⟨denotes, length⟩ := written
  refine ⟨[], field, rfl, by simp, denotes, ?_, length.le⟩
  rintro rfl
  exact positive.ne length

/-- A date of full width is a loose date as well. -/
theorem looseDate_of_fixed {date : Date} {d : List Char} (written : FixedDate date d) :
    LooseDate date d := by
  obtain ⟨⟨n, same, year⟩, month, day, valid⟩ := written
  have year := LooseYear.unsigned (looseField_of_fixed (by decide) year)
  exact .mk (same ▸ year) (looseField_of_fixed (by decide) month)
    (looseField_of_fixed (by decide) day) valid

/-- A time of full width is a loose time as well. -/
theorem looseTime_of_fixed {time : TimeOfDay} {t : List Char} (written : FixedTime time t) :
    LooseTime time t := by
  obtain ⟨hour, minute, second, fraction, made⟩ := written
  exact .mk (looseField_of_fixed (by decide) hour) (looseField_of_fixed (by decide) minute)
    (looseField_of_fixed (by decide) second) fraction made

variable {instant other : Instant} {text : List Char}

/-- Behind its date, a zoned date and time goes on with a letter or a space and more than a time. -/
theorem ZonedDateTime.behind_date (written : ZonedDateTime instant text) :
    ∃ date separator rest, looseDate text = some (date, separator :: rest) ∧
      (separator = 'T' ∨ separator = ' ') ∧ ∀ time, looseTime rest ≠ some (time, []) := by
  obtain @⟨date, time, ahead, separator, d, t, z, dateText, apart, timeText, zoneText⟩ := written
  have stops : NoDigitFirst (separator :: (t ++ z)) := by
    rcases apart with rfl | rfl <;> exact noDigitFirst_cons (by decide) _
  have afterTime := reads_looseTime.complete (looseTime_of_fixed timeText)
    zoneText.noFractionFirst
  refine ⟨date, separator, t ++ z, reads_looseDate.complete (looseDate_of_fixed dateText) stops, apart, ?_⟩
  intro other complete
  rw [afterTime] at complete
  cases complete
  cases zoneText

/-- Behind its date, a plain date and time goes on with a letter and nothing but a time. -/
theorem PlainDateTime.behind_date (written : PlainDateTime instant text) :
    ∃ date rest time, looseDate text = some (date, 'T' :: rest) ∧ looseTime rest = some (time, []) := by
  obtain @⟨date, time, d, t, dateText, timeText⟩ := written
  have afterTime := (reads_looseTime.whole_iff noFractionFirst_nil).mpr timeText
  exact ⟨date, t, time, reads_looseDate.complete dateText (noDigitFirst_cons (by decide) t), afterTime⟩

/-- Behind its date, a zoned date goes on, but neither with the letter of times nor with a space. -/
theorem ZonedDate.behind_date (written : ZonedDate instant text) :
    ∃ date c rest, looseDate text = some (date, c :: rest) ∧ c ≠ 'T' ∧ c ≠ ' ' := by
  obtain @⟨date, nanos, ahead, d, f, z, dateText, fractionText, zoneText⟩ := written
  have stops := zoneText.noFractionFirst
  have afterDate := reads_looseDate.complete (looseDate_of_fixed dateText)
    (fractionText.noDigitFirst_append stops)
  have first : ∃ c rest, f ++ z = c :: rest ∧ c ≠ 'T' ∧ c ≠ ' ' := by
    cases fractionText with
    | present _ _ => exact ⟨_, _, rfl, by decide, by decide⟩
    | absent =>
      cases zoneText with
      | utc => exact ⟨_, _, rfl, by decide, by decide⟩
      | ahead _ => exact ⟨_, _, rfl, by decide, by decide⟩
      | behind minus _ => rcases minus with rfl | rfl <;> exact ⟨_, _, rfl, by decide, by decide⟩
  obtain ⟨c, rest, shape, other⟩ := first
  exact ⟨date, c, rest, shape ▸ afterDate, other⟩

/-- Behind its date, a plain date does not go on. -/
theorem PlainDate.behind_date (written : PlainDate instant text) :
    ∃ date, looseDate text = some (date, []) := by
  obtain @⟨date, d, dateText⟩ := written
  exact ⟨date, (reads_looseDate.whole_iff noDigitFirst_nil).mpr dateText⟩

theorem ZonedDateTime.not_plainDateTime (written : ZonedDateTime instant text) :
    ¬ PlainDateTime other text := by
  intro again
  -- The text has one loose date in front and one loose time behind it. The zone is left, or nothing is.
  obtain ⟨date, separator, rest, read, _, incomplete⟩ := written.behind_date
  obtain ⟨date, _, time, readAgain, complete⟩ := again.behind_date
  rw [read] at readAgain
  cases readAgain
  exact incomplete time complete

theorem ZonedDateTime.not_zonedDate (written : ZonedDateTime instant text) :
    ¬ ZonedDate other text := by
  intro again
  obtain ⟨date, separator, rest, read, apart, _⟩ := written.behind_date
  obtain ⟨date, c, _, readAgain, notLetter, notSpace⟩ := again.behind_date
  rw [read] at readAgain
  cases readAgain
  exact apart.elim notLetter notSpace

theorem PlainDateTime.not_zonedDate (written : PlainDateTime instant text) :
    ¬ ZonedDate other text := by
  intro again
  obtain ⟨date, rest, time, read, _⟩ := written.behind_date
  obtain ⟨date, c, _, readAgain, notLetter, _⟩ := again.behind_date
  rw [read] at readAgain
  cases readAgain
  exact notLetter rfl

/-- The text of a plain date has no other form. -/
theorem PlainDate.unique (written : PlainDate instant text) :
    ¬ ZonedDateTime other text ∧ ¬ PlainDateTime other text ∧ ¬ ZonedDate other text := by
  obtain ⟨date, read⟩ := written.behind_date
  refine ⟨fun again => ?_, fun again => ?_, fun again => ?_⟩
  all_goals
    obtain ⟨_, _, _, readAgain, _⟩ := again.behind_date
    rw [read] at readAgain
    cases readAgain

/-! ## Reading -/

/-- The text is written for the instant in one of the four forms. -/
def Written (instant : Instant) (text : List Char) : Prop :=
  ZonedDateTime instant text ∨ PlainDateTime instant text ∨ ZonedDate instant text ∨
    PlainDate instant text

/-- The first form that fits is the only one. -/
private theorem firstForm_eq_some_iff :
    (zonedDateTime? text <|> plainDateTime? text <|> zonedDate? text <|> plainDate? text) =
      some instant ↔ Written instant text := by
  simp only [Option.orElse_eq_orElse, Option.orElse_eq_or, Option.or_eq_some_iff,
    Option.eq_none_iff_forall_ne_some, ne_eq, Written, zonedDateTime?_eq_some_iff, plainDateTime?_eq_some_iff, zonedDate?_eq_some_iff,
    plainDate?_eq_some_iff]
  constructor
  · rintro (first | ⟨_, second | ⟨_, third | ⟨_, fourth⟩⟩⟩)
    · exact .inl first
    · exact .inr (.inl second)
    · exact .inr (.inr (.inl third))
    · exact .inr (.inr (.inr fourth))
  · -- A form may stand behind others in the order because none of those before it fits its text.
    rintro (first | second | third | fourth)
    · exact .inl first
    · exact .inr ⟨fun _ again => again.not_plainDateTime second, .inl second⟩
    · exact .inr ⟨fun _ again => again.not_zonedDate third,
        .inr ⟨fun _ again => again.not_zonedDate third, .inl third⟩⟩
    · exact .inr ⟨fun _ => fourth.unique.1, .inr ⟨fun _ => fourth.unique.2.1,
        .inr ⟨fun _ => fourth.unique.2.2, fourth⟩⟩⟩

/-- A text is read as the instant that its canonical text is written for. -/
theorem read_eq_ok_iff : read text = .ok instant ↔ Written instant (canonical text) := by
  rw [← firstForm_eq_some_iff, read]
  split
  · rename_i found
    rw [found, Except.ok.injEq, Option.some_inj]
  · rename_i missing
    rw [missing]
    simp only [reduceCtorEq]

/-- All texts that are not read are at fault alike. -/
theorem read_eq_error_iff {fault : LiteralFault} :
    read text = .error fault ↔ (∀ instant, ¬ Written instant (canonical text)) ∧ fault = .invalidDate := by
  simp only [← read_eq_ok_iff]
  rw [read]
  split
  · simp
  · simp [eq_comm]

end FieldSearch.Time
