import FieldSearch.Number.Decimal

/-! # Binary floating-point numbers

A floating-point number is a sign and a magnitude, the bits below the sign taken as one number.
Larger magnitudes are larger numbers, up to infinity, and above infinity lie the NaNs. A finite
magnitude counts a whole number of *units*, the unit being the least positive number of the format,
so that decimals are compared and rounded in exact arithmetic.
-/

namespace FieldSearch.Number

-- Powers are those of the core library, whatever else is imported.
attribute [local instance (2000)] instPowNat

/-- The two formats: 32 and 64 bits wide. -/
inductive BinaryFormat where
  | single
  | double
deriving DecidableEq, Repr

namespace BinaryFormat

/-- The bits behind the leading bit of a significand. -/
def fractionBits : BinaryFormat → Nat
  | single => 23
  | double => 52

/-- The bits of the exponent. -/
def exponentBits : BinaryFormat → Nat
  | single => 8
  | double => 11

/-- The unit of the format is two to the power of minus this. -/
def unitExponent : BinaryFormat → Nat
  | single => 149
  | double => 1074

/-- The bits below the sign. -/
def magnitudeBits (format : BinaryFormat) : Nat :=
  format.exponentBits + format.fractionBits

/-- The magnitude of infinity. -/
def infinity (format : BinaryFormat) : Nat :=
  (2 ^ format.exponentBits - 1) * 2 ^ format.fractionBits

/-- How many units a finite magnitude counts. -/
def units (format : BinaryFormat) (magnitude : Nat) : Nat :=
  let fraction := magnitude % 2 ^ format.fractionBits
  match magnitude / 2 ^ format.fractionBits with
  | 0 => fraction
  | exponent + 1 => (2 ^ format.fractionBits + fraction) * 2 ^ exponent

/-- The quotient rounded to the nearest whole number, halves to the even neighbour. -/
def roundQuotient (numerator denominator : Nat) : Nat :=
  let floor := numerator / denominator
  let twice := 2 * (numerator % denominator)
  if twice < denominator then floor
  else if denominator < twice then floor + 1
  else if floor % 2 = 0 then floor
  else floor + 1

/-- The magnitude nearest to a number of units given as a quotient. Beyond the fraction's width the
representable numbers are `2 ^ step` units apart. -/
def ofQuotient (format : BinaryFormat) (numerator denominator : Nat) : Nat :=
  let step := (numerator / denominator).log2 - format.fractionBits
  min format.infinity
    (step * 2 ^ format.fractionBits + roundQuotient numerator (denominator * 2 ^ step))

/-- The magnitude nearest to a decimal. Decimals beyond `10 ^ 400` or below `10 ^ -400` are out of
reach of either format, and are settled without computing the power. -/
def nearest (format : BinaryFormat) (decimal : Decimal) : Nat :=
  let reach : Int := 400
  if decimal.coefficient = 0 then 0
  else if reach < decimal.exponent then format.infinity
  else if decimal.exponent + (decimal.coefficient.log2 + 1) < -reach then 0
  else
    let scaled := decimal.coefficient * 2 ^ format.unitExponent
    match decimal.exponent with
    | .ofNat power => format.ofQuotient (scaled * 10 ^ power) 1
    | .negSucc power => format.ofQuotient scaled (10 ^ (power + 1))

theorem nearest_le_infinity (format : BinaryFormat) (decimal : Decimal) :
    format.nearest decimal ≤ format.infinity := by
  unfold nearest ofQuotient
  dsimp only
  split
  · exact Nat.zero_le _
  split
  · exact Nat.le_refl _
  split
  · exact Nat.zero_le _
  split <;> exact Nat.min_le_left ..

end BinaryFormat

/-- A floating-point number of a format. -/
structure Binary (format : BinaryFormat) where
  negative : Bool
  magnitude : Nat
  magnitude_lt : magnitude < 2 ^ format.magnitudeBits
deriving DecidableEq

namespace Binary

variable {format : BinaryFormat}

/-- The number with these bits. Bits beyond the format's width are dropped. -/
def ofBits (bits : Nat) : Binary format where
  negative := bits.testBit format.magnitudeBits
  magnitude := bits % 2 ^ format.magnitudeBits
  magnitude_lt := Nat.mod_lt _ (Nat.two_pow_pos _)

/-- The bits of the number. -/
def toBits (x : Binary format) : Nat :=
  (if x.negative then 2 ^ format.magnitudeBits else 0) + x.magnitude

/-- Above infinity lie the NaNs. -/
def isNaN (x : Binary format) : Bool :=
  format.infinity < x.magnitude

/-- Infinity of either sign. -/
def isInfinite (x : Binary format) : Bool :=
  x.magnitude == format.infinity

/-- The place of the number in the natural order. Both zeros have the same place. -/
def rank (x : Binary format) : Int :=
  if x.negative then -x.magnitude else x.magnitude

/-- Numerical equality: zeros are equal whatever their sign, and NaN equals nothing. -/
def same (x y : Binary format) : Bool :=
  !x.isNaN && !y.isNaN && x.rank == y.rank

theorem infinity_lt (format : BinaryFormat) :
    format.infinity + 1 < 2 ^ format.magnitudeBits := by
  cases format <;> decide

theorem nearest_lt (format : BinaryFormat) (decimal : Decimal) :
    format.nearest decimal < 2 ^ format.magnitudeBits :=
  Nat.lt_of_le_of_lt (format.nearest_le_infinity decimal) (Nat.lt_of_succ_lt (infinity_lt format))

/-- The number of this sign nearest to a numeral's size. -/
def ofSize (negative : Bool) : Size → Binary format
  | .finite decimal => ⟨negative, format.nearest decimal, nearest_lt format decimal⟩
  | .infinite => ⟨negative, format.infinity, Nat.lt_of_succ_lt (infinity_lt format)⟩
  | .nan => ⟨negative, format.infinity + 1, infinity_lt format⟩

/-- Read a literal of the format. NaN is refused, since a literal has a place in the order. -/
def read (format : BinaryFormat) (text : List Char) : Except LiteralFault (Binary format) := do
  let (negative, size) ← readNumeral text
  let x : Binary format := ofSize negative size
  if x.isNaN then .error .unordered else .ok x

end Binary

end FieldSearch.Number
