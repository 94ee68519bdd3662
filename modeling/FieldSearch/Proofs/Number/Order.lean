import FieldSearch.Number.Binary
import FieldSearch.Proofs.Fault.Sequence
import Mathlib.Algebra.Order.Field.Rat
import Mathlib.Order.WithBot
import Mathlib.Tactic.Positivity

/-! # Floating-point numbers in their order

The bits of a floating-point number below its sign count up with the number that they stand for, across
the borders of the exponents and up to infinity. So the places that numbers have by their bits are in
the order of the numbers themselves, and numbers are compared by their places. NaN has none of its own, and
no literal is read as NaN.
-/

namespace FieldSearch.Number

-- Powers are those of the core library, whatever else is imported.
attribute [local instance (2000)] instPowNat

namespace BinaryFormat

/-- The units of a magnitude, from its exponent and its fraction. -/
private theorem units_eq (format : BinaryFormat) {exponent fraction : Nat}
    (fits : fraction < 2 ^ format.fractionBits) :
    format.units (2 ^ format.fractionBits * exponent + fraction) =
      if exponent = 0 then fraction
      else (2 ^ format.fractionBits + fraction) * 2 ^ (exponent - 1) := by
  have positive : 0 < 2 ^ format.fractionBits := Nat.two_pow_pos _
  rw [units, Nat.mul_add_mod, Nat.mod_eq_of_lt fits, Nat.mul_add_div positive,
    Nat.div_eq_of_lt fits, Nat.add_zero]
  cases exponent <;> rfl

/-- The next magnitude is a larger number of units, also where a new exponent begins. -/
theorem units_lt_units_succ (format : BinaryFormat) (magnitude : Nat) :
    format.units magnitude < format.units (magnitude + 1) := by
  have fits : magnitude % 2 ^ format.fractionBits < 2 ^ format.fractionBits :=
    Nat.mod_lt _ (Nat.two_pow_pos _)
  have split := Nat.div_add_mod magnitude (2 ^ format.fractionBits)
  generalize magnitude / 2 ^ format.fractionBits = exponent at split
  generalize magnitude % 2 ^ format.fractionBits = fraction at fits split
  subst split
  rw [units_eq format fits]
  by_cases carry : fraction + 1 = 2 ^ format.fractionBits
  · have next : 2 ^ format.fractionBits * exponent + fraction + 1 =
        2 ^ format.fractionBits * (exponent + 1) + 0 := by
      rw [Nat.add_assoc, carry, Nat.mul_add, Nat.mul_one, Nat.add_zero]
    rw [next, units_eq format (Nat.two_pow_pos _), if_neg (Nat.succ_ne_zero _), Nat.add_zero,
      Nat.add_sub_cancel]
    split
    · rename_i first
      rw [first, Nat.pow_zero, Nat.mul_one]
      exact fits
    · rename_i normal
      have scale : 2 ^ exponent = 2 * 2 ^ (exponent - 1) := by
        rw [← Nat.pow_succ', Nat.succ_eq_add_one, Nat.sub_add_cancel (Nat.pos_of_ne_zero normal)]
      calc (2 ^ format.fractionBits + fraction) * 2 ^ (exponent - 1)
          < (2 ^ format.fractionBits * 2) * 2 ^ (exponent - 1) :=
            Nat.mul_lt_mul_of_pos_right (by omega) (Nat.two_pow_pos _)
        _ = 2 ^ format.fractionBits * 2 ^ exponent := by rw [scale, Nat.mul_assoc]
  · rw [Nat.add_assoc, units_eq format (by omega)]
    split
    · exact Nat.lt_succ_self fraction
    · exact Nat.mul_lt_mul_of_pos_right (by omega) (Nat.two_pow_pos _)

theorem units_strictMono (format : BinaryFormat) : StrictMono format.units :=
  strictMono_nat_of_lt_succ format.units_lt_units_succ

@[simp]
theorem units_zero (format : BinaryFormat) : format.units 0 = 0 := by
  simp [units]

end BinaryFormat

/-- The whole number of this size, below zero if it is negative. -/
def signed (negative : Bool) (size : Nat) : Int :=
  if negative then -size else size

/-- Sizes can be scaled in order without moving what is signed past each other. -/
theorem signed_lt_signed_iff {scale : Nat → Nat} (mono : StrictMono scale) (zero : scale 0 = 0)
    {negative other : Bool} {m n : Nat} :
    signed negative (scale m) < signed other (scale n) ↔ signed negative m < signed other n := by
  have order (k l : Nat) : scale k < scale l ↔ k < l := mono.lt_iff_lt
  have nothing (k : Nat) : scale k = 0 ↔ k = 0 := by
    have same := mono.injective.eq_iff (a := k) (b := 0)
    rwa [zero] at same
  have forth := order m n
  have back := order n m
  have left := nothing m
  have right := nothing n
  cases negative <;> cases other <;> simp only [signed, ↓reduceIte, Bool.false_eq_true] <;> omega

namespace Binary

variable {format : BinaryFormat} {x y : Binary format}

/-- The number that is meant, infinity included. -/
def number (x : Binary format) : WithBot (WithTop ℚ) :=
  if x.isInfinite then if x.negative then ⊥ else ⊤
  else ((signed x.negative (format.units x.magnitude) / 2 ^ format.unitExponent : ℚ) : WithTop ℚ)

theorem rank_eq_signed (x : Binary format) : x.rank = signed x.negative x.magnitude := rfl

/-- Places are in the order of the numbers. -/
theorem number_lt_number_iff (ordered : x.isNaN = false) (otherOrdered : y.isNaN = false) :
    x.number < y.number ↔ x.rank < y.rank := by
  have bounded : x.magnitude ≤ format.infinity := by simpa [isNaN] using ordered
  have otherBounded : y.magnitude ≤ format.infinity := by simpa [isNaN] using otherOrdered
  have unit : (0 : ℚ) < 2 ^ format.unitExponent := by positivity
  have positive : 0 < format.infinity := by cases format <;> decide
  rw [rank_eq_signed, rank_eq_signed]
  unfold number isInfinite
  by_cases infinite : x.magnitude = format.infinity <;>
    by_cases otherInfinite : y.magnitude = format.infinity
  · rw [infinite, otherInfinite]
    cases x.negative <;> cases y.negative <;> simp [signed]
    -- Only minus infinity is below infinity.
    omega
  · have finite : y.magnitude < format.infinity := by omega
    cases x.negative <;> cases y.negative <;> simp [signed, infinite, otherInfinite] <;> omega
  · have finite : x.magnitude < format.infinity := by omega
    have below (q : ℚ) : ((q : WithTop ℚ) : WithBot (WithTop ℚ)) < ⊤ :=
      WithBot.coe_lt_coe.mpr (WithTop.coe_lt_top q)
    cases x.negative <;> cases y.negative <;>
      simp [signed, infinite, otherInfinite, below] <;> omega
  · simp only [infinite, otherInfinite, beq_iff_eq, ↓reduceIte]
    rw [WithBot.coe_lt_coe, WithTop.coe_lt_coe, div_lt_div_iff_of_pos_right unit, Int.cast_lt]
    exact signed_lt_signed_iff format.units_strictMono format.units_zero

/-- No two places are those of one number. -/
theorem number_eq_number_iff (ordered : x.isNaN = false) (otherOrdered : y.isNaN = false) :
    x.number = y.number ↔ x.rank = y.rank := by
  rw [le_antisymm_iff, ← not_lt, ← not_lt, number_lt_number_iff ordered otherOrdered,
    number_lt_number_iff otherOrdered ordered, not_lt, not_lt, ← le_antisymm_iff]

/-- Both are numbers, and the same one. -/
def Equal (x y : Binary format) : Prop :=
  x.isNaN = false ∧ y.isNaN = false ∧ x.number = y.number

theorem same_iff_equal : x.same y = true ↔ x.Equal y := by
  simp only [same, Equal, Bool.and_eq_true, Bool.not_eq_true', beq_iff_eq, and_assoc]
  refine and_congr_right fun ordered => and_congr_right fun otherOrdered => ?_
  exact (number_eq_number_iff ordered otherOrdered).symm

/-- The number with zero in place of minus zero. -/
def normal (x : Binary format) : Binary format :=
  if x.magnitude = 0 then { x with negative := false } else x

/-- Numbers have one place exactly if they differ in the sign of zero at most. -/
private theorem rank_eq_rank_iff : x.rank = y.rank ↔ x.normal = y.normal := by
  obtain ⟨negative, magnitude, bound⟩ := x
  obtain ⟨other, otherMagnitude, otherBound⟩ := y
  by_cases zero : magnitude = 0 <;> by_cases otherZero : otherMagnitude = 0 <;>
    cases negative <;> cases other <;> simp [rank, normal, zero, otherZero]
  -- What is left are two signs of numbers that are not zero.
  all_goals omega

theorem same_iff : x.same y = true ↔ x.isNaN = false ∧ y.isNaN = false ∧ x.normal = y.normal := by
  simp only [same, Bool.and_eq_true, Bool.not_eq_true', beq_iff_eq, and_assoc, rank_eq_rank_iff]

/-- NaN is refused, whatever the text is that names it. -/
theorem isNaN_eq_false_of_read {text : List Char} (success : read format text = .ok x) :
    x.isNaN = false := by
  obtain ⟨⟨negative, size⟩, _, success⟩ := bind_eq_ok_iff.mp success
  dsimp only at success
  split at success
  · cases success
  · rename_i ordered
    cases success
    exact Bool.eq_false_iff.mpr ordered

/-- Both are numbers, and the first is the smaller one. -/
def Below (x y : Binary format) : Prop :=
  x.isNaN = false ∧ y.isNaN = false ∧ x.number < y.number

theorem Below.rank_lt (below : x.Below y) : x.rank < y.rank := by
  obtain ⟨ordered, otherOrdered, less⟩ := below
  exact (number_lt_number_iff ordered otherOrdered).mp less

end Binary

end FieldSearch.Number
