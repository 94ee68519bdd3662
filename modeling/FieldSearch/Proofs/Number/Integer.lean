import FieldSearch.Literal
import FieldSearch.Proofs.Fault.Sequence
import FieldSearch.Proofs.Text.Reading
import FieldSearch.Proofs.Text.Words

/-! # Integer literals are exact

Digit by digit the size of what has been read grows, so a value that once is out of range stays out of
range. The checks in between therefore refuse no literal whose number fits, and nothing wraps around: a
literal has the number that its digits denote, or none.
-/

namespace FieldSearch.Number

open Text

-- Powers are those of the core library, whatever else is imported.
attribute [local instance (2000)] instPowNat

/-- One sign or none in front of digits, and the whole number that is meant. -/
inductive IntegerText : Int → List Char → Prop
  | unsigned {size : Nat} {field : List Char} : Denotes size field → field ≠ [] →
      IntegerText size field
  | positive {size : Nat} {field : List Char} : Denotes size field → field ≠ [] →
      IntegerText size ('+' :: field)
  | negative {size : Nat} {field : List Char} : Denotes size field → field ≠ [] →
      IntegerText (-size) ('-' :: field)

/-! ## Reading -/

variable {low high sign n : Int} {field text : List Char}

private theorem le_ofDigitChars (field : List Char) (size : Nat) :
    size ≤ Nat.ofDigitChars 10 field size := by
  rw [Nat.ofDigitChars_eq_ofDigitChars_zero]
  have scaled := Nat.le_mul_of_pos_left size (Nat.pow_pos (a := 10) (n := field.length) (by decide))
  omega

/-- Digits extend a value within the bounds to the number that they denote behind it, if that is within the
bounds as well. -/
theorem extendInteger_eq_ok_iff {size : Nat} (sides : sign = 1 ∨ sign = -1) (below : low ≤ 0)
    (above : 0 ≤ high) (inside : low ≤ sign * size ∧ sign * size ≤ high) :
    extendInteger low high sign (sign * size) field = .ok n ↔
      (∀ c ∈ field, c.isDigit = true) ∧ n = sign * Nat.ofDigitChars 10 field size ∧ low ≤ n ∧ n ≤ high := by
  induction field generalizing size with
  | nil =>
    rw [extendInteger, Nat.ofDigitChars_nil, Except.ok.injEq]
    constructor
    · rintro rfl
      exact ⟨by simp, rfl, inside⟩
    · rintro ⟨_, rfl, _⟩
      rfl
  | cons c field ih =>
    rw [extendInteger]
    split
    · rename_i digit
      have extended : 10 * (sign * size) + sign * (c.toNat - '0'.toNat : Nat) =
          sign * (10 * size + (c.toNat - '0'.toNat) : Nat) := by
        rcases sides with rfl | rfl <;> omega
      simp only [extended, List.forall_mem_cons, digit, true_and, Nat.ofDigitChars_cons]
      generalize 10 * size + (c.toNat - '0'.toNat) = next
      have grows := le_ofDigitChars field next
      -- What is out of range on one side stays there, since no digit leads back.
      split
      · rename_i small
        simp only [reduceCtorEq, false_iff, not_and]
        rintro _ rfl
        rcases sides with rfl | rfl <;> omega
      · split
        · rename_i large
          simp only [reduceCtorEq, false_iff, not_and]
          rintro _ rfl
          rcases sides with rfl | rfl <;> omega
        · exact ih (by omega)
    · rename_i other
      simp [other]

private theorem extendInteger_zero_eq_ok_iff (sides : sign = 1 ∨ sign = -1) (below : low ≤ 0)
    (above : 0 ≤ high) : extendInteger low high sign 0 field = .ok n ↔
      ∃ size, Denotes size field ∧ n = sign * size ∧ low ≤ n ∧ n ≤ high := by
  have start : sign * (0 : Nat) = 0 := Int.mul_zero sign
  have run := @extendInteger_eq_ok_iff low high sign n field 0 sides below above (by omega)
  rw [start] at run
  rw [run]
  constructor
  · rintro ⟨digits, rfl, within⟩
    exact ⟨_, ⟨digits, rfl⟩, rfl, within⟩
  · rintro ⟨_, ⟨digits, rfl⟩, rfl, within⟩
    exact ⟨digits, rfl, within⟩

/-- What is read between bounds is written as an integer, and is within them. -/
theorem readInteger_eq_ok_iff (below : low ≤ 0) (above : 0 ≤ high) :
    readInteger low high text = .ok n ↔ IntegerText n text ∧ low ≤ n ∧ n ≤ high := by
  have upward (field : List Char) : extendInteger low high 1 0 field = .ok n ↔
      ∃ size : Nat, Denotes size field ∧ n = size ∧ low ≤ n ∧ n ≤ high := by
    simpa only [Int.one_mul] using extendInteger_zero_eq_ok_iff (.inl rfl) below above
  have downward (field : List Char) : extendInteger low high (-1) 0 field = .ok n ↔
      ∃ size : Nat, Denotes size field ∧ n = -size ∧ low ≤ n ∧ n ≤ high := by
    simpa only [Int.neg_one_mul] using extendInteger_zero_eq_ok_iff (.inr rfl) below above
  constructor
  · intro read
    unfold readInteger at read
    split at read
    · cases read
    · rename_i c rest
      split at read
      · rename_i mark
        split at read
        · cases read
        · rename_i nonempty
          rcases mark with rfl | rfl
          · obtain ⟨size, denotes, rfl, within⟩ := (upward rest).mp read
            exact ⟨.positive denotes nonempty, within⟩
          · obtain ⟨size, denotes, rfl, within⟩ := (downward rest).mp read
            exact ⟨.negative denotes nonempty, within⟩
      · obtain ⟨size, denotes, rfl, within⟩ := (upward (c :: rest)).mp read
        exact ⟨.unsigned denotes (List.cons_ne_nil c rest), within⟩
  · rintro ⟨written, within⟩
    cases written with
    | unsigned denotes nonempty =>
      obtain ⟨c, rest, rfl⟩ := List.exists_cons_of_ne_nil nonempty
      have digit := denotes.digits c List.mem_cons_self
      have noMark : ¬ (c = '+' ∨ c = '-') := by
        rintro (rfl | rfl)
        · exact absurd digit (by decide)
        · exact absurd digit (by decide)
      rw [readInteger, if_neg noMark]
      exact (upward _).mpr ⟨_, denotes, rfl, within⟩
    | positive denotes nonempty =>
      rw [readInteger, if_pos (.inl rfl), if_neg nonempty]
      exact (upward _).mpr ⟨_, denotes, rfl, within⟩
    | negative denotes nonempty =>
      rw [readInteger, if_pos (.inr rfl), if_neg nonempty]
      exact (downward _).mpr ⟨_, denotes, rfl, within⟩

/-- A datatype that reads its trimmed texts between bounds takes those that are written as an integer within
them. -/
private theorem read_eq_ok_iff_of_ofText {type : Datatype} {literal : String} {value : Literal}
    {make : Int → Literal} (below : low ≤ 0) (above : 0 ≤ high)
    (reads : Literal.ofText type literal = do
      let number ← readInteger low high (trim literal.toList)
      return make number) :
    Literal.read type literal = .ok value ↔
      ∃ n, IntegerText n (trim literal.toList) ∧ low ≤ n ∧ n ≤ high ∧ make n = value := by
  rw [Literal.read_eq_ok_iff, reads]
  simp only [bind_eq_ok_iff, pure_eq_ok_iff, readInteger_eq_ok_iff below above, and_assoc]

theorem read_long_eq_ok_iff {literal : String} {value : Literal} :
    Literal.read .long literal = .ok value ↔ ∃ n, IntegerText n (trim literal.toList) ∧
      -2 ^ (63 : Nat) ≤ n ∧ n < 2 ^ (63 : Nat) ∧ ∃ long, long.toInt = n ∧ value = .long long := by
  rw [read_eq_ok_iff_of_ofText (by decide) (by decide) rfl]
  refine exists_congr fun n => and_congr_right fun _ => ?_
  constructor
  · rintro ⟨low, high, rfl⟩
    have below : n < 2 ^ (63 : Nat) := by omega
    exact ⟨low, below, _, Int64.toInt_ofInt_of_le low below, rfl⟩
  · rintro ⟨low, below, long, rfl, rfl⟩
    exact ⟨low, by omega, by rw [Int64.ofInt_toInt]⟩

theorem read_int_eq_ok_iff {literal : String} {value : Literal} :
    Literal.read .int literal = .ok value ↔ ∃ n, IntegerText n (trim literal.toList) ∧
      -2 ^ (31 : Nat) ≤ n ∧ n < 2 ^ (31 : Nat) ∧ ∃ int, int.toInt = n ∧ value = .int int := by
  rw [read_eq_ok_iff_of_ofText (by decide) (by decide) rfl]
  refine exists_congr fun n => and_congr_right fun _ => ?_
  constructor
  · rintro ⟨low, high, rfl⟩
    have below : n < 2 ^ (31 : Nat) := by omega
    exact ⟨low, below, _, Int32.toInt_ofInt_of_le low below, rfl⟩
  · rintro ⟨low, below, int, rfl, rfl⟩
    exact ⟨low, by omega, by rw [Int32.ofInt_toInt]⟩

/-- An integer is what is a long integer with a number of 32 bits. -/
theorem read_int_eq_ok_iff_read_long {literal : String} {value : Literal} :
    Literal.read .int literal = .ok value ↔
      ∃ long, Literal.read .long literal = .ok (.long long) ∧
        -2 ^ (31 : Nat) ≤ long.toInt ∧ long.toInt < 2 ^ (31 : Nat) ∧
        ∃ int, int.toInt = long.toInt ∧ value = .int int := by
  rw [read_int_eq_ok_iff]
  constructor
  · rintro ⟨n, shape, low, high, int, rfl, rfl⟩
    have below : -2 ^ (63 : Nat) ≤ int.toInt := by omega
    have above : int.toInt < 2 ^ (63 : Nat) := by omega
    have same := Int64.toInt_ofInt_of_le below above
    refine ⟨.ofInt int.toInt, read_long_eq_ok_iff.mpr ⟨_, shape, below, above, _, same, rfl⟩, ?_⟩
    rw [same]
    exact ⟨low, high, int, rfl, rfl⟩
  · rintro ⟨long, read, low, high, int, same, rfl⟩
    obtain ⟨n, shape, _, _, _, rfl, found⟩ := read_long_eq_ok_iff.mp read
    cases found
    exact ⟨_, shape, low, high, int, same, rfl⟩

/-- A text without a value of the datatype is at fault as it was given. -/
theorem read_ok_or_fault (type : Datatype) (text : String) :
    (∃ literal, Literal.read type text = .ok literal) ∨
      ∃ reason, Literal.read type text = .error (.invalidLiteral type text reason) := by
  rw [Literal.read]
  cases Literal.ofText type text with
  | ok literal => exact .inl ⟨literal, rfl⟩
  | error reason => exact .inr ⟨reason, rfl⟩

/-! ## Writing -/

theorem integerText_signedDigits (n : Int) : IntegerText n (signedDigits n) := by
  have denotes : Denotes n.natAbs (digits n.natAbs) :=
    ⟨fun c member => Nat.isDigit_of_mem_toDigits (by decide) (by decide) member, ofDigits_digits _⟩
  have nonempty : digits n.natAbs ≠ [] := Nat.toDigits_ne_nil
  rw [signedDigits]
  split
  · have written := IntegerText.negative denotes nonempty
    have size : -(n.natAbs : Int) = n := by omega
    rwa [size] at written
  · have written := IntegerText.unsigned denotes nonempty
    have size : (n.natAbs : Int) = n := by omega
    rwa [size] at written

theorem IntegerText.notBlank (written : IntegerText n text) : ∀ c ∈ text, isBlank c = false := by
  have ofDigits {size : Nat} {field : List Char} (denotes : Denotes size field) :
      ∀ c ∈ field, isBlank c = false :=
    fun c member => isBlank_eq_false_of_isDigit (denotes.digits c member)
  cases written with
  | unsigned denotes _ => exact ofDigits denotes
  | positive denotes _ => exact List.forall_mem_cons.mpr ⟨by decide, ofDigits denotes⟩
  | negative denotes _ => exact List.forall_mem_cons.mpr ⟨by decide, ofDigits denotes⟩

theorem trim_signedDigits (n : Int) : trim (signedDigits n) = signedDigits n :=
  trim_eq_self_iff.mpr (unpadded_of_unbroken (integerText_signedDigits n).notBlank)

/-- A text is read as a long integer exactly if, trimmed, it is written as a number of 64 bits, and as an
integer exactly if that number has 32 bits. What is read has the number that is written. Any other text is at
fault as it was given, and the text of a value is read as that value. -/
theorem read_integer_iff_written (text : String) :
    (∀ literal, Literal.read .long text = .ok literal ↔ ∃ n, IntegerText n (trim text.toList) ∧
      -2 ^ (63 : Nat) ≤ n ∧ n < 2 ^ (63 : Nat) ∧ ∃ long, long.toInt = n ∧ literal = .long long) ∧
    (∀ literal, Literal.read .int text = .ok literal ↔
      ∃ long, Literal.read .long text = .ok (.long long) ∧
        -2 ^ (31 : Nat) ≤ long.toInt ∧ long.toInt < 2 ^ (31 : Nat) ∧
        ∃ int, int.toInt = long.toInt ∧ literal = .int int) ∧
    (∀ type, (∃ literal, Literal.read type text = .ok literal) ∨
      ∃ reason, Literal.read type text = .error (.invalidLiteral type text reason)) ∧
    (∀ long, Literal.read .long (Literal.long long).render = .ok (.long long)) ∧
    ∀ int, Literal.read .int (Literal.int int).render = .ok (.int int) := by
  have written (n : Int) : IntegerText n (trim (String.ofList (signedDigits n)).toList) := by
    rw [String.toList_ofList, trim_signedDigits]
    exact integerText_signedDigits n
  refine ⟨fun literal => read_long_eq_ok_iff, fun literal => read_int_eq_ok_iff_read_long,
    fun type => read_ok_or_fault type text, fun long => ?_, fun int => ?_⟩
  · exact read_long_eq_ok_iff.mpr ⟨_, written _, long.le_toInt, long.toInt_lt, long, rfl, rfl⟩
  · exact read_int_eq_ok_iff.mpr ⟨_, written _, int.le_toInt, int.toInt_lt, int, rfl, rfl⟩

example : Literal.read .long "\u00A0-09223372036854775808" = .ok (.long Int64.minValue) := by decide

example : Literal.read .int "2147483648" =
    .error (.invalidLiteral .int "2147483648" .aboveRange) := by decide

end FieldSearch.Number
