import FieldSearch.Fault
import FieldSearch.Text.Blank
import FieldSearch.Text.Reading
import FieldSearch.Time.Instant

/-! # Date literals

A date literal is a date, with or without a time of day, with or without a zone. With a zone the
fields have a fixed width. Without one they may be shorter, may have white space in front, and the
year may have a sign. No text is a literal in two of the four forms, so their order is free.
-/

namespace FieldSearch.Time

open Text

-- Powers are those of the core library, whatever else is imported.
attribute [local instance (2000)] instPowNat

/-- A number of at most this many digits. White space may come first. -/
def looseNumber (width : Nat) : Reading Nat := fun text =>
  let text := trimStart text
  let field := (text.take width).takeWhile Char.isDigit
  if field = [] then none else some (ofDigits field, text.drop field.length)

/-- A year of at most four digits, or of any number of digits behind a sign. White space may come
first, but not behind the sign. -/
def looseYear : Reading Int := fun text =>
  match trimStart text with
  | '-' :: rest => (number rest).map fun (year, rest) => (-(year : Int), rest)
  | '+' :: rest => (number rest).map fun (year, rest) => ((year : Int), rest)
  | rest => (looseNumber 4 rest).map fun (year, rest) => ((year : Int), rest)

/-- The nanoseconds of an optional fraction: a point and at least one digit. Digits beyond the ninth
are cut off. -/
def fraction : Reading Nat
  | '.' :: rest =>
    let field := rest.takeWhile Char.isDigit
    let kept := field.take 9
    if field = [] then none
    else some (ofDigits kept * 10 ^ (9 - kept.length), rest.dropWhile Char.isDigit)
  | rest => some (0, rest)

/-- A zone: the letter of UTC, or the hours and minutes by which clocks are ahead of it or behind.
The result is in seconds, ahead being positive. -/
def zone : Reading Int
  | 'Z' :: rest => some (0, rest)
  | sign :: rest => do
    let direction : Int ←
      if sign = '+' then some 1 else if sign = '-' ∨ sign = '\u2212' then some (-1) else none
    let (hours, rest) ← fixedNumber 2 rest
    let (minutes, rest) ← fixedNumber 2 (← skip? ':' rest)
    if hours ≤ 23 ∧ minutes ≤ 59 then
      some (direction * (hours * 3600 + minutes * 60 : Nat), rest)
    else none
  | [] => none

/-- A date of fixed width. -/
def fixedDate : Reading Date := fun text => do
  let (year, rest) ← fixedNumber 4 text
  let (month, rest) ← fixedNumber 2 (← skip? '-' rest)
  let (day, rest) ← fixedNumber 2 (← skip? '-' rest)
  let date ← Date.of? year month day
  return (date, rest)

/-- A time of day of fixed width, with an optional fraction. -/
def fixedTime : Reading TimeOfDay := fun text => do
  let (hour, rest) ← fixedNumber 2 text
  let (minute, rest) ← fixedNumber 2 (← skip? ':' rest)
  let (second, rest) ← fixedNumber 2 (← skip? ':' rest)
  let (nanos, rest) ← fraction rest
  let time ← TimeOfDay.of? hour minute second nanos
  return (time, rest)

/-- A date of loose width. -/
def looseDate : Reading Date := fun text => do
  let (year, rest) ← looseYear text
  let (month, rest) ← looseNumber 2 (← skip? '-' rest)
  let (day, rest) ← looseNumber 2 (← skip? '-' rest)
  let date ← Date.of? year month day
  return (date, rest)

/-- A time of day of loose width, with an optional fraction. -/
def looseTime : Reading TimeOfDay := fun text => do
  let (hour, rest) ← looseNumber 2 text
  let (minute, rest) ← looseNumber 2 (← skip? ':' rest)
  let (second, rest) ← looseNumber 2 (← skip? ':' rest)
  let (nanos, rest) ← fraction rest
  let time ← TimeOfDay.of? hour minute second nanos
  return (time, rest)

/-- A date, the letter `T` or a space, a time of day, and a zone. -/
def zonedDateTime? (text : List Char) : Option Instant := do
  let (date, rest) ← fixedDate text
  let rest ← match rest with
    | 'T' :: rest => some rest
    | ' ' :: rest => some rest
    | _ => none
  let (time, rest) ← fixedTime rest
  let (ahead, rest) ← zone rest
  if rest = [] then some (.of date time ahead) else none

/-- A date, the letter `T`, and a time of day, in UTC. -/
def plainDateTime? (text : List Char) : Option Instant := do
  let (date, rest) ← looseDate text
  let (time, rest) ← looseTime (← skip? 'T' rest)
  if rest = [] then some (.of date time 0) else none

/-- A date and a zone, at midnight. A fraction of midnight's second may come in between. -/
def zonedDate? (text : List Char) : Option Instant := do
  let (date, rest) ← fixedDate text
  let (nanos, rest) ← fraction rest
  let (ahead, rest) ← zone rest
  if rest = [] then some (.of date ⟨0, nanos⟩ ahead) else none

/-- A date, at midnight in UTC. -/
def plainDate? (text : List Char) : Option Instant := do
  let (date, rest) ← looseDate text
  if rest = [] then some (.of date .midnight 0) else none

/-- The text as the forms see it: without white space around it, and in upper case. -/
def canonical (text : List Char) : List Char :=
  (trim text).map Char.toUpper

/-- Read a date literal, in the first of the four forms that fits. -/
def read (text : List Char) : Except LiteralFault Instant :=
  let text := canonical text
  match zonedDateTime? text <|> plainDateTime? text <|> zonedDate? text <|> plainDate? text with
  | some instant => .ok instant
  | none => .error .invalidDate

end FieldSearch.Time
