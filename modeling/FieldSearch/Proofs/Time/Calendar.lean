import FieldSearch.Time.Calendar
import Mathlib.Algebra.BigOperators.Group.List.Basic
import Mathlib.Data.Int.SuccPred
import Mathlib.Order.SuccPred.IntervalSucc

/-! # Counting days

The number of a day is what counting gives: 1 January 1970 is day zero, and the day after a date has the
next number. Each number is that of one date, so the count reaches every day of the proleptic
Gregorian calendar, in both directions and without an end.
-/

namespace FieldSearch.Time

/-! ## Years and months -/

theorem daysBeforeYear_lt_iff {year other : Int} :
    daysBeforeYear year < daysBeforeYear other ↔ year < other := by
  have longer : StrictMono daysBeforeYear := by
    apply strictMono_int_of_lt_succ
    intro year
    rw [daysBeforeYear_succ]
    simp only [monthLengths, List.sum_cons]
    omega
  exact longer.lt_iff_lt

/-- A day lies in the year that has begun by then and has not ended yet. -/
theorem yearOfDay_eq {day year : Int} (begun : daysBeforeYear year ≤ day)
    (running : day < daysBeforeYear (year + 1)) : yearOfDay day = year := by
  have least := daysBeforeYear_lt_iff.mp ((daysBeforeYear_yearOfDay_le day).trans_lt running)
  have most := daysBeforeYear_lt_iff.mp (begun.trans_lt (lt_daysBeforeYear_yearOfDay_succ day))
  omega

/-- Where a day of the year lies: behind the months before its own, and within its own. -/
theorem monthOfDay_spec {lengths : List Nat} {day : Nat} (inYear : day < lengths.sum) :
    ∃ month place, monthOfDay lengths day = (month + 1, place + 1) ∧
      (∃ length, lengths[month]? = some length ∧ place < length) ∧
      (lengths.take month).sum + place = day := by
  induction lengths generalizing day with
  | nil => simp at inYear
  | cons length rest ih =>
    rw [monthOfDay]
    split
    · rename_i first
      exact ⟨0, day, rfl, ⟨length, rfl, first⟩, by simp⟩
    · rename_i later
      rw [List.sum_cons] at inYear
      obtain ⟨month, place, found, inMonth, total⟩ := @ih (day - length) (by omega)
      refine ⟨month + 1, place, by rw [found], inMonth, ?_⟩
      rw [List.take_succ_cons, List.sum_cons]
      omega

theorem monthOfDay_take_sum {lengths : List Nat} {month place length : Nat}
    (here : lengths[month]? = some length) (inMonth : place < length) :
    monthOfDay lengths ((lengths.take month).sum + place) = (month + 1, place + 1) := by
  induction lengths generalizing month with
  | nil => simp at here
  | cons first rest ih =>
    cases month with
    | zero =>
      obtain rfl : first = length := by simpa using here
      simp [monthOfDay, inMonth]
    | succ month =>
      have later := @ih month (by simpa using here)
      rw [List.take_succ_cons, List.sum_cons, monthOfDay, if_neg (by omega)]
      have shifted : first + (rest.take month).sum + place - first = (rest.take month).sum + place := by
        omega
      rw [shifted, later]

private theorem sum_take_succ {lengths : List Nat} {month length : Nat}
    (here : lengths[month]? = some length) :
    (lengths.take (month + 1)).sum = (lengths.take month).sum + length := by
  simp [List.take_add_one, here]

private theorem place_lt_sum {lengths : List Nat} {month place length : Nat}
    (here : lengths[month]? = some length) (inMonth : place < length) :
    (lengths.take month).sum + place < lengths.sum := by
  have split := congrArg List.sum (List.take_append_drop (month + 1) lengths)
  rw [List.sum_append, sum_take_succ here] at split
  omega

theorem length_monthLengths (year : Int) : (monthLengths year).length = 12 := by
  simp [monthLengths]

/-- No month is empty. -/
theorem pos_of_mem_monthLengths {year : Int} : ∀ length ∈ monthLengths year, 0 < length := by
  simp only [monthLengths, List.forall_mem_cons]
  split <;> simp

/-- No month is longer than thirty-one days. -/
theorem le_of_mem_monthLengths {year : Int} : ∀ length ∈ monthLengths year, length ≤ 31 := by
  simp only [monthLengths, List.forall_mem_cons]
  split <;> simp

namespace Date

/-- The date is a day of its month, in a year of any number. -/
def Proper (date : Date) : Prop :=
  1 ≤ date.day ∧ date.day ≤ monthLength date.year date.month

instance (date : Date) : Decidable date.Proper :=
  inferInstanceAs (Decidable (_ ∧ _))

/-- The day after. -/
def next (date : Date) : Date :=
  if date.day < monthLength date.year date.month then ⟨date.year, date.month, date.day + 1⟩
  else if date.month < 12 then ⟨date.year, date.month + 1, 1⟩
  else ⟨date.year + 1, 1, 1⟩

/-- 1 January 1970. -/
def epoch : Date := ⟨1970, 1, 1⟩

/-- Counting days from 1 January 1970, forwards from zero or backwards, the date is reached at this
number. -/
inductive Counted : Int → Date → Prop
  | epoch : Counted 0 epoch
  | next {number : Int} {date : Date} : Counted number date → Counted (number + 1) date.next
  | previous {number : Int} {date : Date} :
      date.Proper → Counted (number + 1) date.next → Counted number date

variable {date : Date}

/-- A proper date has a month and a day in it, counted from zero. -/
theorem Proper.exists_place (proper : date.Proper) : ∃ year month place length,
    date = ⟨year, month + 1, place + 1⟩ ∧
      (monthLengths year)[month]? = some length ∧ place < length := by
  obtain ⟨year, month, day⟩ := date
  obtain ⟨positive, most⟩ := proper
  dsimp only at positive most
  obtain ⟨place, rfl⟩ := Nat.exists_eq_add_of_le' positive
  cases month with
  | zero =>
    rw [monthLength] at most
    omega
  | succ month =>
    rw [monthLength] at most
    cases here : (monthLengths year)[month]? with
    | none =>
      rw [here, Option.getD_none] at most
      omega
    | some length =>
      rw [here, Option.getD_some] at most
      exact ⟨year, month, place, length, rfl, here, most⟩

/-- The month and the day of a proper date have two digits at most. -/
theorem Proper.month_le_and_day_le (proper : date.Proper) : date.month ≤ 12 ∧ date.day ≤ 31 := by
  obtain ⟨year, month, place, length, rfl, here, inMonth⟩ := proper.exists_place
  have inMonths : month < 12 :=
    length_monthLengths year ▸ (List.getElem?_eq_some_iff.mp here).1
  have longest := le_of_mem_monthLengths length (List.mem_of_getElem? here)
  exact ⟨inMonths, by dsimp only; omega⟩

theorem proper_of_place {year : Int} {month place length : Nat}
    (here : (monthLengths year)[month]? = some length) (inMonth : place < length) :
    Proper ⟨year, month + 1, place + 1⟩ := by
  simp only [Proper, monthLength, here, Option.getD_some]
  omega

private theorem dayNumber_of_place (year : Int) (month place : Nat) :
    dayNumber ⟨year, month + 1, place + 1⟩ =
      daysBeforeYear year + (((monthLengths year).take month).sum + place : Nat) - epochDay := by
  simp [dayNumber, Int.add_assoc]

/-- The number of a day leads back to its date. -/
theorem ofDayNumber_dayNumber (proper : date.Proper) : ofDayNumber date.dayNumber = date := by
  obtain ⟨year, month, place, length, rfl, here, inMonth⟩ := proper.exists_place
  have inYear := place_lt_sum here inMonth
  have ends := daysBeforeYear_succ year
  -- The year is found by its bounds, and the month and the day by what is left of it.
  have found : yearOfDay (dayNumber ⟨year, month + 1, place + 1⟩ + epochDay) = year := by
    rw [dayNumber_of_place]
    exact yearOfDay_eq (by omega) (by omega)
  have rest : (dayNumber ⟨year, month + 1, place + 1⟩ + epochDay - daysBeforeYear year).toNat =
      ((monthLengths year).take month).sum + place := by
    rw [dayNumber_of_place]
    omega
  rw [ofDayNumber]
  simp only [found, rest, monthOfDay_take_sum here inMonth]

/-- Each number is that of the date that it leads to. -/
theorem dayNumber_ofDayNumber (number : Int) :
    (ofDayNumber number).Proper ∧ (ofDayNumber number).dayNumber = number := by
  have begun := daysBeforeYear_yearOfDay_le (number + epochDay)
  have running := lt_daysBeforeYear_yearOfDay_succ (number + epochDay)
  rw [daysBeforeYear_succ] at running
  have inYear : (number + epochDay - daysBeforeYear (yearOfDay (number + epochDay))).toNat <
      (monthLengths (yearOfDay (number + epochDay))).sum := by
    omega
  obtain ⟨month, place, found, ⟨length, here, inMonth⟩, total⟩ := monthOfDay_spec inYear
  rw [ofDayNumber]
  simp only [found]
  refine ⟨proper_of_place here inMonth, ?_⟩
  rw [dayNumber_of_place, total]
  omega

/-- The day after is proper, and has the next number. -/
theorem Proper.next (proper : date.Proper) :
    date.next.Proper ∧ date.next.dayNumber = date.dayNumber + 1 := by
  obtain ⟨year, month, place, length, rfl, here, inMonth⟩ := proper.exists_place
  have inMonths : month < 12 :=
    length_monthLengths year ▸ (List.getElem?_eq_some_iff.mp here).1
  have total := sum_take_succ here
  rw [Date.next, dayNumber_of_place]
  simp only [monthLength, here, Option.getD_some]
  split
  · rename_i within
    exact ⟨proper_of_place here within, by rw [dayNumber_of_place]; omega⟩
  · split
    · rename_i within
      obtain ⟨following, there⟩ : ∃ following, (monthLengths year)[month + 1]? = some following :=
        ⟨_, List.getElem?_eq_getElem (by rw [length_monthLengths]; exact within)⟩
      have positive := pos_of_mem_monthLengths following (List.mem_of_getElem? there)
      exact ⟨proper_of_place there positive, by rw [dayNumber_of_place]; omega⟩
    · -- The last month is over, and the lengths of all months add up to that of the year.
      have first : (monthLengths (year + 1))[0]? = some 31 := rfl
      have whole : (monthLengths year).take (month + 1) = monthLengths year :=
        List.take_of_length_le (by rw [length_monthLengths]; omega)
      have ends := daysBeforeYear_succ year
      rw [whole] at total
      refine ⟨proper_of_place first (by decide), ?_⟩
      rw [dayNumber_of_place]
      simp only [List.take_zero, List.sum_nil]
      omega

theorem next_ofDayNumber (number : Int) : (ofDayNumber number).next = ofDayNumber (number + 1) := by
  obtain ⟨proper, numbered⟩ := dayNumber_ofDayNumber number
  obtain ⟨properNext, numberedNext⟩ := proper.next
  rw [← ofDayNumber_dayNumber properNext, numberedNext, numbered]

/-- Counting reaches a day at each number, and no other day. -/
theorem counted_iff {number : Int} : Counted number date ↔ date = ofDayNumber number := by
  have start : ofDayNumber 0 = epoch := by decide
  constructor
  · intro counted
    induction counted with
    | epoch => exact start.symm
    | next _ ih => rw [ih, next_ofDayNumber]
    | @previous number date proper _ ih =>
      -- Different dates could have the same next one, but not if they are both days of the calendar.
      have numbered := proper.next.2
      rw [ih, (dayNumber_ofDayNumber _).2] at numbered
      rw [← ofDayNumber_dayNumber proper]
      congr 1
      omega
  · rintro rfl
    induction number with
    | zero => exact start ▸ .epoch
    | succ number ih => exact next_ofDayNumber _ ▸ ih.next
    | pred number ih =>
      refine .previous (dayNumber_ofDayNumber _).1 ?_
      rw [next_ofDayNumber, Int.sub_add_cancel]
      exact ih

/-- The number of a proper date is the only one at which counting reaches it. -/
theorem Proper.counted_iff (proper : date.Proper) {number : Int} :
    Counted number date ↔ number = date.dayNumber := by
  rw [Date.counted_iff]
  constructor
  · intro same
    rw [same, (dayNumber_ofDayNumber number).2]
  · rintro rfl
    exact (ofDayNumber_dayNumber proper).symm

end Date

end FieldSearch.Time
