import FieldSearch.Text.Digits
import FieldSearch.Time.Calendar

/-! # Instants

An instant is a whole second, counted from the start of 1970 in UTC, and nanoseconds past it. A
leap second has no count of its own: it is the second before it, with a thousand million
nanoseconds or more.
-/

namespace FieldSearch.Time

open Text

/-- The nanoseconds of a second. -/
def nanosPerSecond : Nat := 1000000000

/-- The nanoseconds of a millisecond. -/
def nanosPerMilli : Nat := 1000000

/-- The seconds of a day. -/
def secondsPerDay : Nat := 86400

/-- A time of day, as seconds past midnight and nanoseconds past the second. -/
structure TimeOfDay where
  seconds : Nat
  nanos : Nat
deriving DecidableEq, Repr

namespace TimeOfDay

/-- The start of a day. -/
def midnight : TimeOfDay := ⟨0, 0⟩

/-- The time that a clock shows, if it can. The sixtieth second is a leap second. -/
def of? (hour minute second nanos : Nat) : Option TimeOfDay :=
  if 23 < hour ∨ 59 < minute ∨ 60 < second then none
  else if second = 60 then some ⟨hour * 3600 + minute * 60 + 59, nanosPerSecond + nanos⟩
  else some ⟨hour * 3600 + minute * 60 + second, nanos⟩

end TimeOfDay

/-- A point in time. -/
structure Instant where
  seconds : Int
  nanos : Nat
deriving DecidableEq, Repr

namespace Instant

/-- The instant at which clocks that are ahead of UTC by some seconds show this date and time. -/
def of (date : Date) (time : TimeOfDay) (ahead : Int) : Instant :=
  ⟨date.dayNumber * secondsPerDay + time.seconds - ahead, time.nanos⟩

/-- The instant this many milliseconds after the start of 1970. -/
def ofMillis (millis : Int) : Instant :=
  ⟨millis / 1000, (millis % 1000).toNat * nanosPerMilli⟩

/-- The milliseconds since the start of 1970, what is less than one cut off. -/
def millis (instant : Instant) : Int :=
  instant.seconds * 1000 + (instant.nanos / nanosPerMilli : Nat)

/-- The date in UTC. -/
def date (instant : Instant) : Date :=
  .ofDayNumber (instant.seconds / secondsPerDay)

/-- A year in four digits. Years that need a sign or more digits get both. -/
def renderYear (year : Int) : List Char :=
  if 0 ≤ year ∧ year ≤ 9999 then paddedDigits 4 year.natAbs
  else (if year < 0 then '-' else '+') :: paddedDigits 4 year.natAbs

/-- The instant as a date and time in UTC, to the millisecond. -/
def render (instant : Instant) : List Char :=
  let date := instant.date
  let second := (instant.seconds % secondsPerDay).toNat
  let leap := instant.nanos / nanosPerSecond
  renderYear date.year ++ '-' :: paddedDigits 2 date.month ++ '-' :: paddedDigits 2 date.day ++
    'T' :: paddedDigits 2 (second / 3600) ++ ':' :: paddedDigits 2 (second / 60 % 60) ++
    ':' :: paddedDigits 2 (second % 60 + leap) ++
    '.' :: paddedDigits 3 (instant.nanos % nanosPerSecond / nanosPerMilli) ++ ['Z']

end Instant

end FieldSearch.Time
