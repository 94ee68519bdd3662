import FieldSearch.Proofs.Text.Bytes
import FieldSearch.Proofs.Time.Forms

/-! # Four attempts in any order

A date literal is read in four attempts, of which the first to succeed decides. The one for a date with a
zone may cut the text behind the ten bytes of a date, put midnight in between, and read the whole as a zoned
date and time: this takes the zoned dates and nothing else. No text is taken in two attempts, so two
neighbours among them can be swapped, and nothing depends on the order in which they are made.
-/

namespace FieldSearch.Time

open Text

/-- Read a date and a zone as the date, midnight and the zone. The date takes ten bytes, and the text goes on
behind it. -/
def insertMidnight? (text : List Char) : Option Instant := do
  let (date, zone) ← cutAt? text 10
  if zone ≠ [] ∧ (plainDate? date).isSome then
    zonedDateTime? (date ++ ("T00:00:00".toList ++ zone))
  else none

/-- The attempts at a date literal. -/
def attempts : List (List Char → Option Instant) :=
  [zonedDateTime?, plainDateTime?, insertMidnight?, plainDate?]

/-- Read a date literal in the first of some attempts that succeeds. -/
def readInOrder (order : List (List Char → Option Instant)) (text : List Char) :
    Except LiteralFault Instant :=
  match order.findSome? fun attempt => attempt (canonical text) with
  | some instant => .ok instant
  | none => .error .invalidDate

/-- No text is taken in both attempts. -/
def Apart (attempt other : List Char → Option Instant) : Prop :=
  ∀ text, attempt text = none ∨ other text = none

/-! ## Midnight in between -/

private theorem ascii_of_fixedField {width n : Nat} {field : List Char}
    (written : FixedField width n field) : ∀ c ∈ field, c.toNat < 128 := by
  intro c member
  have bounds := Char.isDigit_iff_toNat.mp (written.1.digits c member)
  have nine : '9'.toNat = 57 := by decide
  omega

/-- A date of full width takes ten bytes. -/
private theorem length_utf8_of_fixedDate {date : Date} {d : List Char} (written : FixedDate date d) :
    (utf8 d).length = 10 := by
  obtain ⟨⟨_, _, year⟩, month, day, _⟩ := written
  simp only [utf8_append, utf8_cons, List.length_append, String.length_utf8EncodeChar,
    length_utf8_of_ascii (ascii_of_fixedField year), length_utf8_of_ascii (ascii_of_fixedField month),
    length_utf8_of_ascii (ascii_of_fixedField day), year.2, month.2, day.2]
  rfl

/-- Two zeros in front of a text can only be the field of the number zero. -/
private theorem eq_zero_of_append {n : Nat} {field back more : List Char}
    (written : FixedField 2 n field) (same : field ++ back = ['0', '0'] ++ more) :
    n = 0 ∧ back = more := by
  obtain ⟨rfl, rest⟩ := List.append_inj same written.2
  exact ⟨written.1.value.symm.trans (by decide), rest⟩

/-- A time that begins with midnight's clock is a fraction of a second past midnight. -/
private theorem eq_midnight_of_append {time : TimeOfDay} {t z zone : List Char}
    (written : FixedTime time t) (same : t ++ z = "00:00:00".toList ++ zone) :
    ∃ nanos f, time = ⟨0, nanos⟩ ∧ FractionText nanos f ∧ zone = f ++ z := by
  have clock : "00:00:00".toList = ['0', '0'] ++ ':' :: (['0', '0'] ++ ':' :: ['0', '0']) := by decide
  obtain @⟨_, _, _, nanos, h, m, s, f, _, hour, minute, second, fraction, made⟩ := written
  simp only [clock, List.append_assoc, List.cons_append] at same
  obtain ⟨rfl, same⟩ := eq_zero_of_append hour same
  obtain ⟨rfl, same⟩ := eq_zero_of_append minute (List.cons.inj same).2
  obtain ⟨rfl, same⟩ := eq_zero_of_append second (List.cons.inj same).2
  have midnight : TimeOfDay.of? 0 0 0 nanos = some ⟨0, nanos⟩ := by simp [TimeOfDay.of?]
  obtain rfl := Option.some_inj.mp (made.symm.trans midnight)
  exact ⟨nanos, f, rfl, fraction, same.symm⟩

/-- A fraction of a second past midnight is written behind midnight's clock. -/
private theorem fixedTime_midnight {nanos : Nat} {f : List Char} (fraction : FractionText nanos f) :
    FixedTime ⟨0, nanos⟩ ("00:00:00".toList ++ f) := by
  have zero : FixedField 2 0 ['0', '0'] := ⟨⟨List.all_eq_true.mp (by decide), by decide⟩, rfl⟩
  exact .mk zero zero zero fraction rfl

/-- With midnight in between, a date and a zone are a zoned date and time exactly if they are a zoned date,
given that the date takes ten bytes. -/
private theorem zonedDateTime_midnight_iff {instant : Instant} {date zone : List Char}
    (ten : (utf8 date).length = 10) :
    ZonedDateTime instant (date ++ ("T00:00:00".toList ++ zone)) ↔
      ZonedDate instant (date ++ zone) := by
  have letter : "T00:00:00".toList = 'T' :: "00:00:00".toList := by decide
  rw [letter]
  constructor
  · generalize same : date ++ ('T' :: "00:00:00".toList ++ zone) = text
    rintro @⟨_, time, ahead, separator, d, t, z, dateText, _, timeText, zoneText⟩
    obtain ⟨rfl, behind⟩ := append_inj_of_length_utf8 same
      (ten.trans (length_utf8_of_fixedDate dateText).symm)
    obtain ⟨nanos, f, rfl, fraction, rfl⟩ :=
      eq_midnight_of_append timeText (List.cons.inj behind).2.symm
    exact .mk dateText fraction zoneText
  · generalize same : date ++ zone = text
    rintro @⟨_, nanos, ahead, d, f, z, dateText, fraction, zoneText⟩
    obtain ⟨rfl, rfl⟩ := append_inj_of_length_utf8 same
      (ten.trans (length_utf8_of_fixedDate dateText).symm)
    have written := ZonedDateTime.mk dateText (.inl rfl) (fixedTime_midnight fraction) zoneText
    rwa [List.append_assoc] at written

theorem insertMidnight?_eq_some_iff {text : List Char} {instant : Instant} :
    insertMidnight? text = some instant ↔ ZonedDate instant text := by
  simp only [insertMidnight?, Option.bind_eq_bind, Option.bind_eq_some_iff, Prod.exists,
    cutAt?_eq_some_iff, Option.ite_none_right_eq_some, zonedDateTime?_eq_some_iff]
  constructor
  · rintro ⟨date, zone, ⟨rfl, ten⟩, _, written⟩
    exact (zonedDateTime_midnight_iff ten).mp written
  · intro written
    have again := written
    obtain @⟨_, nanos, ahead, d, f, z, dateText, _, zoneText⟩ := again
    have ten := length_utf8_of_fixedDate dateText
    have read := plainDate?_eq_some_iff.mpr (.mk (looseDate_of_fixed dateText))
    refine ⟨d, f ++ z, ⟨rfl, ten⟩, ⟨?_, Option.isSome_iff_exists.mpr ⟨_, read⟩⟩,
      (zonedDateTime_midnight_iff ten).mpr written⟩
    intro nothing
    obtain ⟨_, rfl⟩ := List.append_eq_nil_iff.mp nothing
    cases zoneText

/-- To put midnight behind a date is to read it with its zone as it stands. -/
theorem insertMidnight?_eq (text : List Char) : insertMidnight? text = zonedDate? text :=
  Option.ext fun _ => insertMidnight?_eq_some_iff.trans zonedDate?_eq_some_iff.symm

/-! ## The order of attempts -/

theorem Apart.symm {attempt other : List Char → Option Instant} (apart : Apart attempt other) :
    Apart other attempt :=
  fun text => (apart text).symm

/-- Attempts that take what is written in two forms are apart if no text has both. -/
private theorem apart_of_forms {attempt other : List Char → Option Instant}
    {Form OtherForm : Instant → List Char → Prop}
    (takes : ∀ {text instant}, attempt text = some instant ↔ Form instant text)
    (otherTakes : ∀ {text instant}, other text = some instant ↔ OtherForm instant text)
    (never : ∀ {text instant again}, Form instant text → ¬ OtherForm again text) :
    Apart attempt other := by
  intro text
  cases taken : attempt text with
  | none => exact .inl rfl
  | some instant =>
    refine .inr (Option.eq_none_iff_forall_ne_some.mpr ?_)
    intro again takenToo
    exact never (takes.mp taken) (otherTakes.mp takenToo)

/-- No text is taken in two of the four attempts. -/
theorem pairwise_apart_attempts : attempts.Pairwise Apart := by
  -- A plain date is apart from each of the others, and these are apart pair by pair.
  have fromZonedDateTime : Apart zonedDateTime? plainDate? :=
    apart_of_forms zonedDateTime?_eq_some_iff plainDate?_eq_some_iff
      fun written again => again.unique.1 written
  have fromPlainDateTime : Apart plainDateTime? plainDate? :=
    apart_of_forms plainDateTime?_eq_some_iff plainDate?_eq_some_iff
      fun written again => again.unique.2.1 written
  have fromZonedDate : Apart insertMidnight? plainDate? :=
    apart_of_forms insertMidnight?_eq_some_iff plainDate?_eq_some_iff
      fun written again => again.unique.2.2 written
  have dateTimes : Apart zonedDateTime? plainDateTime? :=
    apart_of_forms zonedDateTime?_eq_some_iff plainDateTime?_eq_some_iff
      ZonedDateTime.not_plainDateTime
  have zoned : Apart zonedDateTime? insertMidnight? :=
    apart_of_forms zonedDateTime?_eq_some_iff insertMidnight?_eq_some_iff
      ZonedDateTime.not_zonedDate
  have unlike : Apart plainDateTime? insertMidnight? :=
    apart_of_forms plainDateTime?_eq_some_iff insertMidnight?_eq_some_iff
      PlainDateTime.not_zonedDate
  simp [attempts, dateTimes, zoned, unlike, fromZonedDateTime, fromPlainDateTime, fromZonedDate]

/-- Attempts that are apart give one answer in every order. -/
theorem findSome?_eq_of_perm {order other : List (List Char → Option Instant)}
    (perm : order.Perm other) (apart : other.Pairwise Apart) (text : List Char) :
    (order.findSome? fun attempt => attempt text) = other.findSome? fun attempt => attempt text := by
  -- One order is made of another by swaps of neighbours, and a swap changes nothing.
  induction perm with
  | nil => rfl
  | cons attempt perm ih =>
    rw [List.findSome?_cons, List.findSome?_cons, ih (List.pairwise_cons.mp apart).2]
  | swap attempt next rest =>
    have swapped : Apart attempt next := (List.pairwise_cons.mp apart).1 next List.mem_cons_self
    simp only [List.findSome?_cons]
    rcases swapped text with missed | missed
    · rw [missed]
    · rw [missed]
  | trans first second ihFirst ihSecond =>
    have between := (second.pairwise_iff Apart.symm).mpr apart
    exact (ihFirst between).trans (ihSecond apart)

/-- In the order that they are listed in, the first attempt to succeed is the form that is read. -/
theorem readInOrder_attempts (text : List Char) : readInOrder attempts text = read text := by
  simp only [readInOrder, attempts, List.findSome?_cons, List.findSome?_nil, insertMidnight?_eq]
  rw [read]
  cases zonedDateTime? (canonical text) with
  | some instant => rfl
  | none =>
    cases plainDateTime? (canonical text) with
    | some instant => rfl
    | none =>
      cases zonedDate? (canonical text) with
      | some instant => rfl
      | none => cases plainDate? (canonical text) <;> rfl

/-- No text is taken in two of the four attempts at a date literal, so to make them in any other order is to
read the same. -/
theorem readInOrder_eq_read_of_perm :
    attempts.Pairwise Apart ∧
    ∀ order : List (List Char → Option Instant), order.Perm attempts →
      ∀ text, readInOrder order text = read text := by
  refine ⟨pairwise_apart_attempts, ?_⟩
  intro order perm text
  rw [← readInOrder_attempts, readInOrder, readInOrder,
    findSome?_eq_of_perm perm pairwise_apart_attempts]

/-- From the last attempt to the first, a zoned date is still read as such. -/
theorem readInOrder_reverse_zonedDate :
    attempts.reverse.Perm attempts ∧
    readInOrder attempts.reverse " 2024-01-31.5z".toList = read " 2024-01-31.5z".toList ∧
    readInOrder attempts.reverse " 2024-01-31.5z".toList = .ok ⟨1706659200, 500000000⟩ := by
  have perm := List.reverse_perm attempts
  have same := readInOrder_eq_read_of_perm.2 _ perm " 2024-01-31.5z".toList
  exact ⟨perm, same, same.trans (by rfl)⟩

end FieldSearch.Time
