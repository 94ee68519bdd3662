import FieldSearch.Number.Binary

/-! # The shortest decimal text of a number

A floating-point number is written with as few digits as still read back to it. Decimals of a given
number of digits form a grid around the number, and only its two neighbours on that grid can be the
nearest ones; the coarsest grid with a neighbour that reads back wins. The text is positional, with
no exponent and no empty fraction.
-/

namespace FieldSearch.Number

open Text

-- Powers are those of the core library, whatever else is imported.
attribute [local instance (2000)] instPowNat

namespace BinaryFormat

/-- The power of ten of the leading digit of a positive number of units. -/
def leadingPower (format : BinaryFormat) (units : Nat) : Int :=
  let one := 2 ^ format.unitExponent
  if one ≤ units then (digits (units / one)).length - 1
  else -((List.range 400).find? fun power => one ≤ units * 10 ^ power).getD 0

/-- The greatest multiple of `10 ^ power` up to a number of units: its coefficient, and twice the
remainder compared with the distance of the grid. -/
def gridFloor (format : BinaryFormat) (units : Nat) (power : Int) : Nat × Ordering :=
  let (numerator, denominator) :=
    match power with
    | .ofNat n => (units, 2 ^ format.unitExponent * 10 ^ n)
    | .negSucc n => (units * 10 ^ (n + 1), 2 ^ format.unitExponent)
  (numerator / denominator, compare (2 * (numerator % denominator)) denominator)

/-- The neighbour of a magnitude on the grid of `10 ^ power` that reads back to it. Of two such
neighbours the nearer wins, and the upper one if both are equally near. -/
def neighbour? (format : BinaryFormat) (magnitude : Nat) (power : Int) : Option Decimal :=
  let (floor, position) := format.gridFloor (format.units magnitude) power
  let readsBack (coefficient : Nat) : Bool := format.nearest ⟨coefficient, power⟩ == magnitude
  match readsBack floor, readsBack (floor + 1) with
  | true, true => some ⟨if position = .lt then floor else floor + 1, power⟩
  | true, false => some ⟨floor, power⟩
  | false, true => some ⟨floor + 1, power⟩
  | false, false => none

/-- The exact decimal expansion of a magnitude. -/
def expansion (format : BinaryFormat) (magnitude : Nat) : Decimal :=
  ⟨format.units magnitude * 5 ^ format.unitExponent, -format.unitExponent⟩

/-- The shortest decimal that reads back to a finite, positive magnitude. -/
def shortest (format : BinaryFormat) (magnitude : Nat) : Decimal :=
  let leading := format.leadingPower (format.units magnitude)
  let powers := (List.range 17).map fun (further : Nat) => leading - further
  (powers.findSome? (format.neighbour? magnitude)).getD (format.expansion magnitude)

end BinaryFormat

/-- A fraction's digits behind the point, without zeros at the end, or nothing if none are left. -/
def renderFraction (fraction : List Char) : List Char :=
  match (fraction.reverse.dropWhile (· = '0')).reverse with
  | [] => []
  | significant => '.' :: significant

/-- The positional text of a decimal. -/
def Decimal.render (decimal : Decimal) : List Char :=
  match decimal.exponent with
  | .ofNat power => digits (decimal.coefficient * 10 ^ power)
  | .negSucc power =>
    let text := paddedDigits (power + 2) decimal.coefficient
    let point := text.length - (power + 1)
    text.take point ++ renderFraction (text.drop point)

/-- The text of a number: its sign, and the shortest decimal or the name of what is none. -/
def Binary.render {format : BinaryFormat} (x : Binary format) : List Char :=
  if x.isNaN then "NaN".toList
  else
    let size :=
      if x.isInfinite then "inf".toList
      else if x.magnitude = 0 then ['0']
      else (format.shortest x.magnitude).render
    if x.negative then '-' :: size else size

end FieldSearch.Number
