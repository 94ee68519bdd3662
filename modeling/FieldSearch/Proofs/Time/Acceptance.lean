import FieldSearch.Proofs.Time.Stamp

/-! # What is read beside stamps

Date literals are the texts that are written in one of the four forms. Not all of them are stamps: fields
may be loose where there is no zone, and where there is one a space may stand for the letter of times, a
proper minus sign for a hyphen, and a fraction behind a date without a time.
-/

namespace FieldSearch.Time

open Text

/-- The text is that of a stamp. -/
def IsStamp (text : List Char) : Prop :=
  ∃ stamp : Stamp, text = stamp.render

private theorem exists_stamp {date : Date} {d : List Char} (written : FixedDate date d)
    (clock : Option Clock) (zone : Option Zone) :
    ∃ stamp : Stamp, d = stamp.renderDate ∧ stamp.clock = clock ∧ stamp.zone = zone := by
  obtain ⟨⟨year, _, yearText⟩, monthText, dayText, _⟩ := written
  obtain ⟨rfl, yearFits⟩ := yearText.eq_paddedDigits (by decide)
  obtain ⟨rfl, monthFits⟩ := monthText.eq_paddedDigits (by decide)
  obtain ⟨rfl, dayFits⟩ := dayText.eq_paddedDigits (by decide)
  exact ⟨⟨year, date.month, date.day, clock, zone, yearFits, monthFits, dayFits⟩, rfl, rfl, rfl⟩

private theorem exists_clock {time : TimeOfDay} {t : List Char} (written : FixedTime time t) :
    ∃ clock : Clock, t = clock.render := by
  obtain @⟨hour, minute, second, nanos, _, _, _, _, _, hourText, minuteText, secondText, fractionText,
    made⟩ := written
  obtain ⟨rfl, hourFits⟩ := hourText.eq_paddedDigits (by decide)
  obtain ⟨rfl, minuteFits⟩ := minuteText.eq_paddedDigits (by decide)
  obtain ⟨rfl, _⟩ := secondText.eq_paddedDigits (by decide)
  have second_le : second ≤ 60 := by
    rw [TimeOfDay.of?] at made
    split at made
    · cases made
    · omega
  cases fractionText with
  | absent => exact ⟨⟨hour, minute, second, [], hourFits, minuteFits, second_le, by simp⟩, rfl⟩
  | @present digits allDigits nonempty =>
    refine ⟨⟨hour, minute, second, digits, hourFits, minuteFits, second_le, allDigits⟩, ?_⟩
    rw [Clock.render, Clock.renderFraction, if_neg nonempty]

private theorem exists_zone {ahead : Int} {z : List Char} (written : ZoneText ahead z)
    (noMinus : '\u2212' ∉ z) : ∃ zone : Zone, z = zone.render := by
  cases written with
  | utc => exact ⟨.utc, rfl⟩
  | ahead offset =>
    obtain ⟨hoursText, minutesText, _, _⟩ := offset
    obtain ⟨rfl, hoursFit⟩ := hoursText.eq_paddedDigits (by decide)
    obtain ⟨rfl, minutesFit⟩ := minutesText.eq_paddedDigits (by decide)
    exact ⟨.shifted ⟨true, _, _, hoursFit, minutesFit⟩, rfl⟩
  | behind minus offset =>
    obtain ⟨hoursText, minutesText, _, _⟩ := offset
    obtain ⟨rfl, hoursFit⟩ := hoursText.eq_paddedDigits (by decide)
    obtain ⟨rfl, minutesFit⟩ := minutesText.eq_paddedDigits (by decide)
    rcases minus with rfl | rfl
    · exact ⟨.shifted ⟨false, _, _, hoursFit, minutesFit⟩, rfl⟩
    · exact absurd List.mem_cons_self noMinus

variable {instant : Instant} {text : List Char}

/-- A zoned date and time is a stamp, but for a space or a proper minus sign in it. -/
theorem ZonedDateTime.isStamp (written : ZonedDateTime instant text) (noSpace : ' ' ∉ text)
    (noMinus : '\u2212' ∉ text) : IsStamp text := by
  obtain @⟨date, time, ahead, separator, d, t, z, dateText, apart, timeText, zoneText⟩ := written
  simp only [List.mem_append, List.mem_cons, not_or] at noSpace noMinus
  obtain ⟨clock, rfl⟩ := exists_clock timeText
  obtain ⟨zone, rfl⟩ := exists_zone zoneText noMinus.2.2.2
  obtain ⟨stamp, rfl, hasClock, hasZone⟩ := exists_stamp dateText (some clock) (some zone)
  obtain rfl : separator = 'T' := apart.resolve_right (Ne.symm noSpace.2.1)
  refine ⟨stamp, ?_⟩
  rw [Stamp.render, Stamp.renderClock, Stamp.renderZone, hasClock, hasZone]
  rfl

/-- A zoned date is a stamp, but for a fraction or a proper minus sign in it. -/
theorem ZonedDate.isStamp (written : ZonedDate instant text) (noPoint : '.' ∉ text)
    (noMinus : '\u2212' ∉ text) : IsStamp text := by
  obtain @⟨date, nanos, ahead, d, f, z, dateText, fractionText, zoneText⟩ := written
  simp only [List.mem_append, not_or] at noPoint noMinus
  obtain ⟨zone, rfl⟩ := exists_zone zoneText noMinus.2.2
  obtain ⟨stamp, rfl, hasClock, hasZone⟩ := exists_stamp dateText none (some zone)
  cases fractionText with
  | absent =>
    refine ⟨stamp, ?_⟩
    rw [Stamp.render, Stamp.renderClock, Stamp.renderZone, hasClock, hasZone]
    rfl
  | present _ _ => exact absurd List.mem_cons_self noPoint.2.1

/-- What is written for an instant is a stamp, or has one of the liberties of its form: loose fields without
a zone, and with one a space, a proper minus sign, or a fraction without a time. -/
theorem Written.isStamp_or (written : Written instant text) :
    IsStamp text ∨ PlainDateTime instant text ∨ PlainDate instant text ∨ ' ' ∈ text ∨ '\u2212' ∈ text ∨
      ZonedDate instant text ∧ '.' ∈ text := by
  by_cases space : ' ' ∈ text
  · simp [space]
  by_cases minus : '\u2212' ∈ text
  · simp [minus]
  rcases written with first | second | third | fourth
  · exact .inl (first.isStamp space minus)
  · exact .inr (.inl second)
  · by_cases point : '.' ∈ text
    · simp [third, point]
    · exact .inl (third.isStamp point minus)
  · exact .inr (.inr (.inl fourth))

theorem read_date_eq_error_iff {literal : String} {fault : Fault} :
    Literal.read .date literal = .error fault ↔
      (∀ instant, ¬ Written instant (canonical literal.toList)) ∧
        fault = .invalidLiteral .date literal .invalidDate := by
  rw [Literal.read, Literal.ofText]
  cases outcome : Time.read literal.toList with
  | ok instant =>
    have written := read_eq_ok_iff.mp outcome
    simp only [Bind.bind, Except.bind, Pure.pure, Except.pure, reduceCtorEq, false_iff, not_and]
    intro none
    exact absurd written (none instant)
  | error reason =>
    obtain ⟨none, rfl⟩ := read_eq_error_iff.mp outcome
    simp only [Bind.bind, Except.bind, Except.error.injEq]
    constructor
    · rintro rfl
      exact ⟨none, rfl⟩
    · rintro ⟨_, rfl⟩
      rfl

/-- No fraction stands right behind the date of a stamp. -/
theorem Stamp.getElem?_render_ne_point (stamp : Stamp) : stamp.render[10]? ≠ some '.' := by
  have length := stamp.length_renderDate
  rw [render, List.getElem?_append_right length.le, length, renderClock, renderZone]
  cases stamp.clock with
  | some clock => simp
  | none =>
    cases stamp.zone with
    | none => simp
    | some zone =>
      cases zone with
      | utc => simp [Zone.render]
      | shifted offset =>
        obtain ⟨isAhead, _, _, _, _⟩ := offset
        cases isAhead <;> simp [Zone.render]

/-- Date literals are the texts written in one of the four forms, and all others are at fault alike. Those
with a zone that are not stamps have a space, a proper minus sign, or a fraction without a time in them. -/
theorem read_date_iff_written (text : String) :
    (∀ literal, Literal.read .date text = .ok literal ↔
      ∃ instant, Written instant (canonical text.toList) ∧ literal = .instant instant) ∧
    (∀ fault, Literal.read .date text = .error fault ↔
      (∀ instant, ¬ Written instant (canonical text.toList)) ∧
        fault = .invalidLiteral .date text .invalidDate) ∧
    ∀ instant, Written instant (canonical text.toList) → IsStamp (canonical text.toList) ∨
      PlainDateTime instant (canonical text.toList) ∨ PlainDate instant (canonical text.toList) ∨
      ' ' ∈ canonical text.toList ∨ '\u2212' ∈ canonical text.toList ∨
      ZonedDate instant (canonical text.toList) ∧ '.' ∈ canonical text.toList := by
  refine ⟨?_, ?_, ?_⟩
  · intro literal
    exact read_date_eq_ok_iff
  · intro fault
    exact read_date_eq_error_iff
  · intro instant written
    exact written.isStamp_or

/-- A fraction behind a date is read as a fraction of the first second of the day, but no stamp has one
there. -/
theorem fraction_without_time :
    Literal.read .date "2024-01-31.5Z" = .ok (.instant ⟨1706659200, 500000000⟩) ∧
      ¬ IsStamp (canonical "2024-01-31.5Z".toList) := by
  refine ⟨by rfl, ?_⟩
  rintro ⟨stamp, same⟩
  have point : (canonical "2024-01-31.5Z".toList)[10]? = some '.' := by decide
  exact stamp.getElem?_render_ne_point (same ▸ point)

end FieldSearch.Time
