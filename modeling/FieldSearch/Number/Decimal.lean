import FieldSearch.Fault
import FieldSearch.Text.Digits

/-! # Decimal numerals

A numeral is an optional sign and a decimal number, or one of the names of infinity and NaN. A
decimal number has digits on at least one side of an optional point, and may end in an exponent.
-/

namespace FieldSearch.Number

open Text

/-- The number `coefficient · 10 ^ exponent`. -/
structure Decimal where
  coefficient : Nat
  exponent : Int
deriving DecidableEq, Repr

namespace Decimal

/-- What may follow the digits of a decimal number: nothing, or an exponent. -/
def readExponent? : List Char → Option Int
  | [] => some 0
  | c :: rest =>
    if c = 'e' ∨ c = 'E' then
      let (negative, power) :=
        match rest with
        | '-' :: power => (true, power)
        | '+' :: power => (false, power)
        | power => (false, power)
      if power ≠ [] ∧ power.all Char.isDigit then
        some (if negative then -(ofDigits power) else ofDigits power)
      else none
    else none

/-- Read an unsigned decimal number. -/
def read? (text : List Char) : Option Decimal :=
  let whole := text.takeWhile Char.isDigit
  let (fraction, rest) :=
    match text.dropWhile Char.isDigit with
    | '.' :: rest => (rest.takeWhile Char.isDigit, rest.dropWhile Char.isDigit)
    | rest => ([], rest)
  if whole ++ fraction = [] then none
  else
    (readExponent? rest).map fun exponent =>
      ⟨ofDigits (whole ++ fraction), exponent - fraction.length⟩

end Decimal

/-- What a numeral denotes, its sign apart. -/
inductive Size where
  | finite (decimal : Decimal)
  | infinite
  | nan
deriving DecidableEq, Repr

namespace Size

/-- Infinity and NaN go by name, with letters in either case. -/
def named? (text : List Char) : Option Size :=
  let name := String.ofList (text.map Char.toLower)
  if name = "inf" ∨ name = "infinity" then some .infinite
  else if name = "nan" then some .nan
  else none

/-- Read an unsigned numeral. -/
def read? (text : List Char) : Option Size :=
  match Decimal.read? text with
  | some decimal => some (.finite decimal)
  | none => named? text

end Size

/-- Read a numeral as its sign, true for minus, and its size. -/
def readNumeral : List Char → Except LiteralFault (Bool × Size)
  | [] => .error .emptyNumber
  | c :: rest =>
    let unsigned := if c = '+' ∨ c = '-' then rest else c :: rest
    match Size.read? unsigned with
    | some size => .ok (c == '-', size)
    | none => .error .invalidNumber

end FieldSearch.Number
