import FieldSearch.Fault

/-! # Integer literals

An integer literal is an optional sign and one or more digits. It is read from left to right, and
the first character at which the reading fails decides the fault: a digit that carries the value
out of range wins over any character behind it.
-/

namespace FieldSearch.Number

/-- Append digits to a value of this sign, within the bounds. -/
def extendInteger (low high sign : Int) : Int → List Char → Except LiteralFault Int
  | value, [] => .ok value
  | value, c :: rest =>
    if c.isDigit then
      let extended := 10 * value + sign * (c.toNat - '0'.toNat : Nat)
      if extended < low then .error .belowRange
      else if high < extended then .error .aboveRange
      else extendInteger low high sign extended rest
    else .error .invalidDigit

/-- Read an integer literal between the bounds, both included. -/
def readInteger (low high : Int) : List Char → Except LiteralFault Int
  | [] => .error .emptyInteger
  | c :: rest =>
    if c = '+' ∨ c = '-' then
      if rest = [] then .error .invalidDigit
      else extendInteger low high (if c = '-' then -1 else 1) 0 rest
    else extendInteger low high 1 0 (c :: rest)

end FieldSearch.Number
