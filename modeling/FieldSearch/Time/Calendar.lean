/-! # The calendar

The proleptic Gregorian calendar: leap years every fourth year but three centuries in four, before
its introduction as after. Days are numbered from 1 January 1970. The calendar ends a little beyond
two hundred and sixty thousand years on either side of year zero.
-/

namespace FieldSearch.Time

-- Sums begin with the core library's zero, whatever else is imported.
attribute [local instance (2000)] Zero.ofOfNat0

/-- Every fourth year has a leap day, but of the centuries only every fourth. -/
def isLeapYear (year : Int) : Bool :=
  year % 4 = 0 && (year % 100 ≠ 0 || year % 400 = 0)

/-- The lengths of the months of a year, from January on. -/
def monthLengths (year : Int) : List Nat :=
  [31, if isLeapYear year then 29 else 28, 31, 30, 31, 30, 31, 31, 30, 31, 30, 31]

/-- The days of a month, January being the first. No other month has any. -/
def monthLength (year : Int) : Nat → Nat
  | 0 => 0
  | month + 1 => ((monthLengths year)[month]?).getD 0

/-- A year, a month and a day, counted from one. -/
structure Date where
  year : Int
  month : Nat
  day : Nat
deriving DecidableEq, Repr

/-- The first year of the calendar. -/
def firstYear : Int := -262143

/-- The last year of the calendar. -/
def lastYear : Int := 262142

/-- The days from the start of year zero to the start of a year. -/
def daysBeforeYear (year : Int) : Int :=
  365 * year + (year + 3) / 4 - (year + 99) / 100 + (year + 399) / 400

/-- The number of 1 January 1970, counted from the start of year zero. -/
def epochDay : Int := 719528

/-- The year in which a day lies that is counted from the start of year zero. The average length of
a year gives it up to one year. -/
def yearOfDay (day : Int) : Int :=
  let guess := day * 400 / 146097
  if day < daysBeforeYear guess then guess - 1
  else if day < daysBeforeYear (guess + 1) then guess
  else guess + 1

/-- A year is as long as its months together. -/
theorem daysBeforeYear_succ (year : Int) :
    daysBeforeYear (year + 1) = daysBeforeYear year + (monthLengths year).sum := by
  simp only [daysBeforeYear, monthLengths, List.sum_cons, List.sum_nil]
  unfold isLeapYear
  by_cases fourth : year % 4 = 0 <;> by_cases century : year % 100 = 0 <;>
    by_cases fourthCentury : year % 400 = 0 <;>
    simp [fourth, century, fourthCentury] <;> omega

/-- A day does not lie before its year. -/
theorem daysBeforeYear_yearOfDay_le (day : Int) : daysBeforeYear (yearOfDay day) ≤ day := by
  unfold yearOfDay
  dsimp only
  split
  · unfold daysBeforeYear
    omega
  · split
    · omega
    · unfold daysBeforeYear at *
      omega

/-- A day does not lie behind its year. -/
theorem lt_daysBeforeYear_yearOfDay_succ (day : Int) :
    day < daysBeforeYear (yearOfDay day + 1) := by
  unfold yearOfDay
  dsimp only
  split
  · rw [Int.sub_add_cancel]
    assumption
  · split
    · assumption
    · unfold daysBeforeYear
      omega

/-- The month in which a day of the year lies, and its place there, from the lengths of the months.
The day is counted from zero, the results from one. -/
def monthOfDay : List Nat → Nat → Nat × Nat
  | [], day => (1, day + 1)
  | length :: rest, day =>
    if day < length then (1, day + 1)
    else
      let (month, place) := monthOfDay rest (day - length)
      (month + 1, place)

namespace Date

/-- The date is a day of the calendar. -/
def Valid (date : Date) : Prop :=
  firstYear ≤ date.year ∧ date.year ≤ lastYear ∧ 1 ≤ date.day ∧
    date.day ≤ monthLength date.year date.month

instance (date : Date) : Decidable date.Valid := by
  unfold Valid; infer_instance

/-- The date with these parts, if the calendar has it. -/
def of? (year : Int) (month day : Nat) : Option Date :=
  let date : Date := ⟨year, month, day⟩
  if date.Valid then some date else none

/-- The number of the day, zero being 1 January 1970. -/
def dayNumber (date : Date) : Int :=
  daysBeforeYear date.year + ((monthLengths date.year).take (date.month - 1)).sum +
    (date.day - 1 : Nat) - epochDay

/-- The date of the day with this number. -/
def ofDayNumber (number : Int) : Date :=
  let day := number + epochDay
  let year := yearOfDay day
  let (month, place) := monthOfDay (monthLengths year) (day - daysBeforeYear year).toNat
  ⟨year, month, place⟩

end Date

end FieldSearch.Time
