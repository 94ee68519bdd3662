import FieldSearch.Proofs.Text.Reading
import FieldSearch.Proofs.Text.Trim
import FieldSearch.Time.Literal

/-! # How dates and times are written

The parts of a date literal as relations between a value and its text, and the four forms put together
from them. Each reading takes what its relation describes. Fields of fixed width and loose fields differ in
nothing but the digits and the white space that they allow, so dates and times are described over any
kind of field.
-/

namespace FieldSearch.Time

open Text

-- Powers are those of the core library, whatever else is imported.
attribute [local instance (2000)] instPowNat

/-! ## Fields -/

/-- The number is written in at most this many digits. White space may come first. -/
def LooseField (width n : Nat) (field : List Char) : Prop :=
  ∃ blanks digits, field = blanks ++ digits ∧ (∀ c ∈ blanks, isBlank c = true) ∧
    Denotes n digits ∧ digits ≠ [] ∧ digits.length ≤ width

/-- The year is written in at most four digits, or in any number of digits behind a sign. White space
may come first. -/
inductive LooseYear : Int → List Char → Prop
  | unsigned {n : Nat} {field : List Char} : LooseField 4 n field → LooseYear n field
  | positive {n : Nat} {blanks digits : List Char} : (∀ c ∈ blanks, isBlank c = true) →
      Denotes n digits → digits ≠ [] → LooseYear n (blanks ++ '+' :: digits)
  | negative {n : Nat} {blanks digits : List Char} : (∀ c ∈ blanks, isBlank c = true) →
      Denotes n digits → digits ≠ [] → LooseYear (-n) (blanks ++ '-' :: digits)

/-- The year is written in four digits. -/
def FixedYear (year : Int) (field : List Char) : Prop :=
  ∃ n : Nat, year = n ∧ FixedField 4 n field

private theorem exists_blanks (text : List Char) :
    ∃ blanks, text = blanks ++ trimStart text ∧ ∀ c ∈ blanks, isBlank c = true :=
  ⟨text.takeWhile isBlank, List.takeWhile_append_dropWhile.symm,
    fun _ member => List.mem_takeWhile_imp member⟩

private theorem not_isBlank_head {digits rest : List Char} (nonempty : digits ≠ [])
    (allDigits : ∀ c ∈ digits, c.isDigit = true) : ∀ c ∈ (digits ++ rest).head?, isBlank c = false := by
  obtain ⟨d, others, rfl⟩ := List.exists_cons_of_ne_nil nonempty
  intro c first
  obtain rfl := Option.some_inj.mp first
  exact isBlank_eq_false_of_isDigit (allDigits d List.mem_cons_self)

theorem reads_looseNumber (width : Nat) :
    Reads (looseNumber width) (LooseField width) NoDigitFirst where
  sound := by
    intro text rest value read
    obtain ⟨blanks, split, blank⟩ := exists_blanks text
    rw [looseNumber] at read
    generalize trimStart text = text at read split
    split at read
    · cases read
    · rename_i nonempty
      cases read
      have within : (text.take width).takeWhile Char.isDigit <+: text.take width :=
        List.takeWhile_prefix _
      refine ⟨blanks ++ (text.take width).takeWhile Char.isDigit, ?_, blanks, _, rfl, blank,
        ⟨fun c member => List.mem_takeWhile_imp member, rfl⟩, nonempty, ?_⟩
      · have whole := within.trans (List.take_prefix width text)
        rw [split, List.append_assoc, List.prefix_iff_eq_append.mp whole]
      · exact within.length_le.trans (List.length_take_le width text)
  complete := by
    rintro _ rest value ⟨blanks, digits, rfl, blank, denotes, nonempty, short⟩ stops
    have start : trimStart (blanks ++ digits ++ rest) = digits ++ rest := by
      rw [List.append_assoc]
      exact trimStart_append blank (not_isBlank_head nonempty denotes.digits)
    have stopsEarly : NoDigitFirst (rest.take (width - digits.length)) := by
      intro c first
      rw [List.head?_take] at first
      split at first
      · cases first
      · exact stops c first
    have field : ((digits ++ rest).take width).takeWhile Char.isDigit = digits := by
      rw [List.take_append, List.take_of_length_le short]
      exact takeWhile_append_stop denotes.digits stopsEarly
    rw [looseNumber]
    simp only [start, field, if_neg nonempty, denotes.value, List.drop_left]

/-- White space may be put in front of a loose field. -/
private theorem LooseField.prepend {width n : Nat} {front field : List Char}
    (blank : ∀ c ∈ front, isBlank c = true) (written : LooseField width n field) :
    LooseField width n (front ++ field) := by
  obtain ⟨blanks, digits, rfl, others, written⟩ := written
  exact ⟨front ++ blanks, digits, (List.append_assoc _ _ _).symm,
    List.forall_mem_append.mpr ⟨blank, others⟩, written⟩

theorem reads_looseYear : Reads looseYear LooseYear NoDigitFirst where
  sound := by
    intro text rest value read
    obtain ⟨blanks, split, blank⟩ := exists_blanks text
    rw [looseYear] at read
    generalize trimStart text = text at read split
    split at read
    · obtain ⟨⟨n, _⟩, signed, same⟩ := Option.map_eq_some_iff.mp read
      cases same
      obtain ⟨digits, rfl, denotes, nonempty⟩ := reads_number.sound signed
      exact ⟨blanks ++ '-' :: digits, by simp [split], .negative blank denotes nonempty⟩
    · obtain ⟨⟨n, _⟩, signed, same⟩ := Option.map_eq_some_iff.mp read
      cases same
      obtain ⟨digits, rfl, denotes, nonempty⟩ := reads_number.sound signed
      exact ⟨blanks ++ '+' :: digits, by simp [split], .positive blank denotes nonempty⟩
    · obtain ⟨⟨n, _⟩, unsigned, same⟩ := Option.map_eq_some_iff.mp read
      cases same
      obtain ⟨field, rfl, written⟩ := (reads_looseNumber 4).sound unsigned
      exact ⟨blanks ++ field, by simp [split], .unsigned (written.prepend blank)⟩
  complete := by
    intro part rest value written stops
    cases written with
    | @unsigned n _ written =>
      obtain ⟨blanks, digits, rfl, blank, denotes, nonempty, short⟩ := written
      have start : trimStart (blanks ++ digits ++ rest) = digits ++ rest := by
        rw [List.append_assoc]
        exact trimStart_append blank (not_isBlank_head nonempty denotes.digits)
      have bare : LooseField 4 n digits := ⟨[], digits, rfl, by simp, denotes, nonempty, short⟩
      have number := (reads_looseNumber 4).complete bare stops
      obtain ⟨d, others, rfl⟩ := List.exists_cons_of_ne_nil nonempty
      have digit := denotes.digits d List.mem_cons_self
      rw [looseYear, start]
      split
      · rename_i same
        rw [(List.cons.inj same).1] at digit
        cases digit
      · rename_i same
        rw [(List.cons.inj same).1] at digit
        cases digit
      · rw [number]
        rfl
    | @positive n blanks digits blank denotes nonempty =>
      have start : trimStart (blanks ++ '+' :: digits ++ rest) = '+' :: (digits ++ rest) := by
        rw [List.append_assoc]
        exact trimStart_append blank (by rintro _ ⟨⟩; decide)
      rw [looseYear, start]
      simp only [reads_number.complete ⟨denotes, nonempty⟩ stops]
      rfl
    | @negative n blanks digits blank denotes nonempty =>
      have start : trimStart (blanks ++ '-' :: digits ++ rest) = '-' :: (digits ++ rest) := by
        rw [List.append_assoc]
        exact trimStart_append blank (by rintro _ ⟨⟩; decide)
      rw [looseYear, start]
      simp only [reads_number.complete ⟨denotes, nonempty⟩ stops]
      rfl

/-! ## Dates -/

/-- The date is written as a year, a month and a day, and the calendar has it. -/
inductive DateText (Year : Int → List Char → Prop) (Field : Nat → List Char → Prop) :
    Date → List Char → Prop
  | mk {date : Date} {year month day : List Char} : Year date.year year → Field date.month month →
      Field date.day day → date.Valid → DateText Year Field date (year ++ '-' :: (month ++ '-' :: day))

/-- Read a date of these fields. -/
def readDate (year : Reading Int) (field : Reading Nat) : Reading Date := fun text => do
  let (year, rest) ← year text
  let (month, rest) ← field (← skip? '-' rest)
  let (day, rest) ← field (← skip? '-' rest)
  let date ← Date.of? year month day
  return (date, rest)

private theorem of?_eq_some_iff {year : Int} {month day : Nat} {date : Date} :
    Date.of? year month day = some date ↔ date = ⟨year, month, day⟩ ∧ date.Valid := by
  rw [Date.of?]
  split
  · rename_i valid
    rw [Option.some_inj]
    constructor
    · rintro rfl
      exact ⟨rfl, valid⟩
    · rintro ⟨rfl, _⟩
      rfl
  · rename_i invalid
    simp only [reduceCtorEq, false_iff]
    rintro ⟨rfl, valid⟩
    exact invalid valid

theorem reads_date {year : Reading Int} {field : Reading Nat} {Year : Int → List Char → Prop}
    {Field : Nat → List Char → Prop} (years : Reads year Year NoDigitFirst)
    (fields : Reads field Field NoDigitFirst) :
    Reads (readDate year field) (DateText Year Field) NoDigitFirst where
  sound := by
    intro text rest date read
    simp only [readDate, Option.bind_eq_bind, Option.bind_eq_some_iff, Prod.exists, skip?_eq_some_iff,
      Option.pure_def, Option.some_inj, Prod.mk.injEq, of?_eq_some_iff] at read
    obtain ⟨y, _, year, behindYear, rfl, m, _, month, behindMonth, rfl, d, _, day, date, ⟨rfl, valid⟩,
      rfl, rfl⟩ := read
    obtain ⟨yearField, rfl, yearText⟩ := years.sound year
    obtain ⟨monthField, rfl, monthText⟩ := fields.sound month
    obtain ⟨dayField, rfl, dayText⟩ := fields.sound day
    exact ⟨yearField ++ '-' :: (monthField ++ '-' :: dayField), by simp,
      .mk yearText monthText dayText valid⟩
  complete := by
    rintro _ rest date ⟨yearText, monthText, dayText, valid⟩ stops
    have dash (rest : List Char) : NoDigitFirst ('-' :: rest) := noDigitFirst_cons (by decide) rest
    have afterYear (rest : List Char) := years.complete yearText (dash rest)
    have afterMonth (rest : List Char) := fields.complete monthText (dash rest)
    have afterDay := fields.complete dayText stops
    have made : Date.of? date.year date.month date.day = some date := of?_eq_some_iff.mpr ⟨rfl, valid⟩
    simp [readDate, afterYear, afterMonth, afterDay, skip?, made]

/-! ## Times of day -/

/-- The nanoseconds are written as the digits of a fraction, of which those beyond a nanosecond are cut
off, or not at all. -/
inductive FractionText : Nat → List Char → Prop
  | absent : FractionText 0 []
  | present {digits : List Char} : (∀ c ∈ digits, c.isDigit = true) → digits ≠ [] →
      FractionText (ofDigits digits * nanosPerSecond / 10 ^ digits.length) ('.' :: digits)

/-- The first character would not continue a fraction and would not begin one. -/
def NoFractionFirst (text : List Char) : Prop :=
  ∀ c ∈ text.head?, c.isDigit = false ∧ c ≠ '.'

theorem noFractionFirst_nil : NoFractionFirst [] := by
  rintro _ ⟨⟩

theorem NoFractionFirst.noDigitFirst {text : List Char} (stops : NoFractionFirst text) :
    NoDigitFirst text :=
  fun c first => (stops c first).1

/-- The first nine digits of a fraction, filled up with zeros, are its nanoseconds. -/
private theorem ofDigits_take_mul {digits : List Char} (allDigits : ∀ c ∈ digits, c.isDigit = true) :
    ofDigits (digits.take 9) * 10 ^ (9 - (digits.take 9).length) =
      ofDigits digits * nanosPerSecond / 10 ^ digits.length := by
  have second : nanosPerSecond = 10 ^ 9 := rfl
  have positive (n : Nat) : 0 < 10 ^ n := Nat.pow_pos (by decide)
  rw [second]
  rcases Nat.le_total digits.length 9 with short | long
  · -- The zeros that fill up a short fraction are a whole number of units of its last digit.
    have split : 10 ^ 9 = 10 ^ (9 - digits.length) * 10 ^ digits.length := by
      rw [← Nat.pow_add, Nat.sub_add_cancel short]
    rw [List.take_of_length_le short, split, ← Nat.mul_assoc, Nat.mul_div_cancel _ (positive _)]
  · -- What is cut off from a long fraction is less than a nanosecond.
    have kept : (digits.take 9).length = 9 := by rw [List.length_take, Nat.min_eq_left long]
    have below := ofDigits_lt fun c member => allDigits c (List.mem_of_mem_drop (i := 9) member)
    have split : 10 ^ digits.length = 10 ^ (digits.drop 9).length * 10 ^ 9 := by
      rw [← Nat.pow_add, List.length_drop, Nat.sub_add_cancel long]
    have whole := ofDigits_append (digits.take 9) (digits.drop 9)
    rw [List.take_append_drop] at whole
    rw [kept, Nat.sub_self, Nat.pow_zero, Nat.mul_one, split, Nat.mul_div_mul_right _ _ (positive 9),
      whole, Nat.add_comm, Nat.add_mul_div_right _ _ (positive _), Nat.div_eq_of_lt below, Nat.zero_add]

theorem reads_fraction : Reads fraction FractionText NoFractionFirst where
  sound := by
    intro text rest nanos read
    unfold fraction at read
    split at read
    · rename_i text
      dsimp only at read
      split at read
      · cases read
      · rename_i nonempty
        have digits : ∀ c ∈ text.takeWhile Char.isDigit, c.isDigit = true :=
          fun c member => List.mem_takeWhile_imp member
        cases read
        rw [ofDigits_take_mul digits]
        exact ⟨'.' :: text.takeWhile Char.isDigit, by simp, .present digits nonempty⟩
    · cases read
      exact ⟨[], rfl, .absent⟩
  complete := by
    intro part rest nanos written stops
    cases written with
    | absent =>
      rw [List.nil_append]
      unfold fraction
      split
      · rename_i point
        exact absurd rfl (stops '.' rfl).2
      · rfl
    | @present digits allDigits nonempty =>
      rw [List.cons_append, fraction, takeWhile_append_stop allDigits stops.noDigitFirst,
        dropWhile_append_stop allDigits stops.noDigitFirst, if_neg nonempty,
        ofDigits_take_mul allDigits]

/-- The time is written as an hour, a minute and a second, with or without a fraction, and a clock can
show it. -/
inductive TimeText (Field : Nat → List Char → Prop) : TimeOfDay → List Char → Prop
  | mk {hour minute second nanos : Nat} {h m s f : List Char} {time : TimeOfDay} :
      Field hour h → Field minute m → Field second s → FractionText nanos f →
      TimeOfDay.of? hour minute second nanos = some time →
      TimeText Field time (h ++ ':' :: (m ++ ':' :: (s ++ f)))

/-- Read a time of day of these fields. -/
def readTime (field : Reading Nat) : Reading TimeOfDay := fun text => do
  let (hour, rest) ← field text
  let (minute, rest) ← field (← skip? ':' rest)
  let (second, rest) ← field (← skip? ':' rest)
  let (nanos, rest) ← fraction rest
  let time ← TimeOfDay.of? hour minute second nanos
  return (time, rest)

/-- A fraction begins with its point. -/
theorem FractionText.noDigitFirst_append {nanos : Nat} {part rest : List Char}
    (written : FractionText nanos part) (stops : NoFractionFirst rest) : NoDigitFirst (part ++ rest) := by
  cases written with
  | absent => exact stops.noDigitFirst
  | present _ _ => exact noDigitFirst_cons (by decide) _

theorem reads_time {field : Reading Nat} {Field : Nat → List Char → Prop}
    (fields : Reads field Field NoDigitFirst) :
    Reads (readTime field) (TimeText Field) NoFractionFirst where
  sound := by
    intro text rest time read
    simp only [readTime, Option.bind_eq_bind, Option.bind_eq_some_iff, Prod.exists, skip?_eq_some_iff,
      Option.pure_def, Option.some_inj, Prod.mk.injEq] at read
    obtain ⟨h, _, hour, behindHour, rfl, m, _, minute, behindMinute, rfl, s, _, second, nanos, _,
      fraction, time, made, rfl, rfl⟩ := read
    obtain ⟨hourField, rfl, hourText⟩ := fields.sound hour
    obtain ⟨minuteField, rfl, minuteText⟩ := fields.sound minute
    obtain ⟨secondField, rfl, secondText⟩ := fields.sound second
    obtain ⟨part, rfl, fractionText⟩ := reads_fraction.sound fraction
    exact ⟨hourField ++ ':' :: (minuteField ++ ':' :: (secondField ++ part)), by simp,
      .mk hourText minuteText secondText fractionText made⟩
  complete := by
    rintro _ rest time ⟨hourText, minuteText, secondText, fractionText, made⟩ stops
    have colon (rest : List Char) : NoDigitFirst (':' :: rest) := noDigitFirst_cons (by decide) rest
    have afterHour (rest : List Char) := fields.complete hourText (colon rest)
    have afterMinute (rest : List Char) := fields.complete minuteText (colon rest)
    have afterSecond := fields.complete secondText (fractionText.noDigitFirst_append stops)
    have afterFraction := reads_fraction.complete fractionText stops
    simp [readTime, afterHour, afterMinute, afterSecond, afterFraction, skip?, made]

/-! ## Zones -/

/-- The offset is written as hours and minutes, and clocks differ by it in this direction. -/
inductive OffsetText (direction : Int) : Int → List Char → Prop
  | mk {hours minutes : Nat} {h m : List Char} : FixedField 2 hours h → FixedField 2 minutes m →
      hours ≤ 23 → minutes ≤ 59 →
      OffsetText direction (direction * (hours * 3600 + minutes * 60 : Nat)) (h ++ ':' :: m)

/-- The zone is written as the letter of UTC, or as a sign and the offset by which clocks are ahead of it
or behind. The sign of those behind may be a proper minus sign. -/
inductive ZoneText : Int → List Char → Prop
  | utc : ZoneText 0 ['Z']
  | ahead {seconds : Int} {offset : List Char} : OffsetText 1 seconds offset →
      ZoneText seconds ('+' :: offset)
  | behind {seconds : Int} {sign : Char} {offset : List Char} : sign = '-' ∨ sign = '\u2212' →
      OffsetText (-1) seconds offset → ZoneText seconds (sign :: offset)

/-- Read an offset in this direction. -/
def readOffset (direction : Int) : Reading Int := fun text => do
  let (hours, rest) ← fixedNumber 2 text
  let (minutes, rest) ← fixedNumber 2 (← skip? ':' rest)
  if hours ≤ 23 ∧ minutes ≤ 59 then
    some (direction * (hours * 3600 + minutes * 60 : Nat), rest)
  else none

private theorem reads_offset (direction : Int) (Stops : List Char → Prop) :
    Reads (readOffset direction) (OffsetText direction) Stops where
  sound := by
    intro text rest seconds read
    simp only [readOffset, Option.bind_eq_bind, Option.bind_eq_some_iff, Prod.exists,
      skip?_eq_some_iff, Option.ite_none_right_eq_some, Option.some_inj, Prod.mk.injEq] at read
    obtain ⟨h, _, hours, behindHours, rfl, m, _, minutes, ⟨hoursBound, minutesBound⟩, rfl, rfl⟩ := read
    obtain ⟨hourField, rfl, hourText⟩ := (reads_fixedNumber 2 Stops).sound hours
    obtain ⟨minuteField, rfl, minuteText⟩ := (reads_fixedNumber 2 Stops).sound minutes
    exact ⟨hourField ++ ':' :: minuteField, by simp,
      .mk hourText minuteText hoursBound minutesBound⟩
  complete := by
    rintro _ rest seconds ⟨hourText, minuteText, hoursBound, minutesBound⟩ _
    have anywhere := reads_fixedNumber 2 fun _ => True
    have afterHours (rest : List Char) := @anywhere.complete _ rest _ hourText trivial
    have afterMinutes := @anywhere.complete _ rest _ minuteText trivial
    simp [readOffset, afterHours, afterMinutes, skip?, hoursBound, minutesBound]

private theorem zone_cons (sign : Char) (rest : List Char) :
    zone (sign :: rest) =
      if sign = 'Z' then some (0, rest)
      else if sign = '+' then readOffset 1 rest
      else if sign = '-' ∨ sign = '\u2212' then readOffset (-1) rest
      else none := by
  unfold zone
  split
  · rename_i same
    cases same
    rfl
  · rename_i notUtc same
    cases same
    rw [if_neg notUtc]
    split
    · rfl
    · split <;> rfl
  · rename_i same
    cases same

theorem reads_zone (Stops : List Char → Prop) : Reads zone ZoneText Stops where
  sound := by
    intro text rest seconds read
    cases text with
    | nil => cases read
    | cons sign text =>
      rw [zone_cons] at read
      split at read
      · rename_i same
        cases same
        cases read
        exact ⟨['Z'], rfl, .utc⟩
      · split at read
        · rename_i same
          cases same
          obtain ⟨offset, rfl, written⟩ := (reads_offset 1 Stops).sound read
          exact ⟨'+' :: offset, rfl, .ahead written⟩
        · split at read
          · rename_i minus
            obtain ⟨offset, rfl, written⟩ := (reads_offset (-1) Stops).sound read
            exact ⟨sign :: offset, rfl, .behind minus written⟩
          · cases read
  complete := by
    intro part rest seconds written stops
    cases written with
    | utc => rfl
    | ahead written =>
      have offset := (reads_offset 1 Stops).complete written stops
      rw [List.cons_append, zone_cons, if_neg (by decide), if_pos rfl, offset]
    | behind minus written =>
      have offset := (reads_offset (-1) Stops).complete written stops
      rw [List.cons_append, zone_cons]
      rcases minus with rfl | rfl
      · exact offset
      · exact offset

/-- Nothing comes behind a zone. -/
theorem zone_eq_whole_iff {text : List Char} {seconds : Int} :
    zone text = some (seconds, []) ↔ ZoneText seconds text :=
  (reads_zone fun _ => True).whole_iff trivial

/-- A zone begins with neither a digit nor a point. -/
theorem ZoneText.noFractionFirst {seconds : Int} {part : List Char}
    (written : ZoneText seconds part) : NoFractionFirst part := by
  cases written with
  | utc => rintro _ ⟨⟩; decide
  | ahead _ => rintro _ ⟨⟩; decide
  | behind minus _ => rcases minus with rfl | rfl <;> (rintro _ ⟨⟩; decide)

end FieldSearch.Time
