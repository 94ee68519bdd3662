import FieldSearch.Number.Binary
import FieldSearch.Time.Literal
import FieldSearch.Toml.Quoted

/-! # TOML scalars

Numbers, truth values, dates and times. No setting is one of these, so only their form is checked
and their values are dropped. A form that breaks off early leaves a rest that no line can end with.
-/

namespace FieldSearch.Toml

open Text Number

-- Powers are those of the core library, whatever else is imported.
attribute [local instance (2000)] instPowNat

/-- Further digits, each of which an underscore may precede. -/
def moreDigits (isDigit : Char → Bool) : List Char → List Char × List Char
  | '_' :: c :: rest =>
    if isDigit c then
      let (digits, rest) := moreDigits isDigit rest
      (c :: digits, rest)
    else ([], '_' :: c :: rest)
  | c :: rest =>
    if isDigit c then
      let (digits, rest) := moreDigits isDigit rest
      (c :: digits, rest)
    else ([], c :: rest)
  | [] => ([], [])

/-- Digits with single underscores between them. -/
def digitRun (isDigit : Char → Bool) : Reading (List Char)
  | c :: rest =>
    if isDigit c then
      let (digits, rest) := moreDigits isDigit rest
      some (c :: digits, rest)
    else none
  | [] => none

/-- The digits of a whole number without leading zeros. -/
def wholeDigits : Reading (List Char)
  | '0' :: rest => some (['0'], rest)
  | text => digitRun Char.isDigit text

/-- A sign, true for minus, that may be missing. -/
def splitSign : List Char → Bool × List Char
  | '-' :: rest => (true, rest)
  | '+' :: rest => (false, rest)
  | text => (false, text)

/-- The power of ten behind the letter of an exponent. -/
def exponent : Reading Int
  | c :: rest =>
    if c = 'e' ∨ c = 'E' then do
      let (negative, rest) := splitSign rest
      let (digits, rest) ← digitRun Char.isDigit rest
      return (if negative then -(ofDigits digits) else ofDigits digits, rest)
    else none
  | [] => none

/-- A number with a fraction, an exponent or both. It may not be too large for 64 bits, unless it is
negative. -/
def skipFloat? (text : List Char) : Option (List Char) := do
  let (negative, rest) := splitSign text
  let (whole, rest) ← wholeDigits rest
  let (fraction, power, rest) ←
    match rest with
    | '.' :: rest => do
      let (fraction, rest) ← digitRun Char.isDigit rest
      let (power, rest) := (exponent rest).getD (0, rest)
      some (fraction, power, rest)
    | rest => do
      let (power, rest) ← exponent rest
      some ([], power, rest)
  let decimal : Decimal := ⟨ofDigits (whole ++ fraction), power - fraction.length⟩
  if !negative ∧ BinaryFormat.double.nearest decimal = BinaryFormat.double.infinity then none
  else some rest

/-- Infinity or NaN. -/
def skipNamedFloat? (text : List Char) : Option (List Char) :=
  let (_, rest) := splitSign text
  skipAll? "inf".toList rest <|> skipAll? "nan".toList rest

/-- A decimal integer of 64 bits. -/
def skipDecimalInteger? (text : List Char) : Option (List Char) := do
  let (negative, rest) := splitSign text
  let (digits, rest) ← wholeDigits rest
  if ofDigits digits < 2 ^ (63 : Nat) ∨ negative ∧ ofDigits digits = 2 ^ (63 : Nat) then some rest else none

/-- The value of a digit in a base up to sixteen. -/
def digitIn? (base : Nat) (c : Char) : Option Nat :=
  (hexDigit? c).filter (· < base)

/-- An integer of 64 bits in the base that its second character names. -/
def skipBasedInteger? : List Char → Option (List Char)
  | '0' :: mark :: rest => do
    let base ← match mark with
      | 'x' => some 16
      | 'o' => some 8
      | 'b' => some 2
      | _ => none
    let (digits, rest) ← digitRun (fun c => (digitIn? base c).isSome) rest
    let value := (digits.filterMap (digitIn? base)).foldl (base * · + ·) 0
    if value < 2 ^ (63 : Nat) then some rest else none
  | _ => none

/-- A truth value. -/
def skipBoolean? (text : List Char) : Option (List Char) :=
  skipAll? "true".toList text <|> skipAll? "false".toList text

/-- The distance of a time from UTC. -/
def skipOffset? : List Char → Option (List Char)
  | c :: rest =>
    if c = 'Z' ∨ c = 'z' then some rest
    else if c = '+' ∨ c = '-' then do
      let (hours, rest) ← fixedNumber 2 rest
      let (minutes, rest) ← fixedNumber 2 (← skip? ':' rest)
      if hours ≤ 23 ∧ minutes ≤ 59 then some rest else none
    else none
  | [] => none

/-- A time of day behind a date, and its distance from UTC, both of which may be missing. -/
def skipTimeOfDate (text : List Char) : List Char :=
  match text with
  | c :: rest =>
    if c = 'T' ∨ c = 't' ∨ c = ' ' then
      match Time.fixedTime rest with
      | some (_, rest) => (skipOffset? rest).getD rest
      | none => text
    else text
  | [] => []

/-- A date, a time of day, or a date with a time of day. -/
def skipDateTime? (text : List Char) : Option (List Char) :=
  match Time.fixedDate text with
  | some (_, rest) => some (skipTimeOfDate rest)
  | none => (Time.fixedTime text).map (·.2)

/-- Any scalar. Of the forms that fit, the longest is tried first. -/
def skipScalar? (text : List Char) : Option (List Char) :=
  skipBoolean? text <|> skipDateTime? text <|> skipNamedFloat? text <|> skipFloat? text <|>
    skipBasedInteger? text <|> skipDecimalInteger? text

end FieldSearch.Toml
