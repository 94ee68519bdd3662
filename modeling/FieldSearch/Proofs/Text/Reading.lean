import FieldSearch.Proofs.Text.Run
import FieldSearch.Text.Blank
import FieldSearch.Text.Reading

/-! # What a reading takes

A reading is described by what is written for a value, and by what may follow. It takes nothing else from
the front of a text than what is written for the value that it gives, and it gives each value for which
something is written there, if what follows cannot be taken for more of the same.
-/

namespace FieldSearch.Text

-- Powers are those of the core library, whatever else is imported.
attribute [local instance (2000)] instPowNat

/-- The reading takes what is written for a value, and stops in front of such a rest. -/
structure Reads {α : Type} (reading : Reading α) (Written : α → List Char → Prop)
    (Stops : List Char → Prop) : Prop where
  sound {text rest : List Char} {value : α} :
    reading text = some (value, rest) → ∃ part, text = part ++ rest ∧ Written value part
  complete {part rest : List Char} {value : α} :
    Written value part → Stops rest → reading (part ++ rest) = some (value, rest)

/-- A reading takes the whole of a text exactly if it is written for the value. -/
theorem Reads.whole_iff {α : Type} {reading : Reading α} {Written : α → List Char → Prop}
    {Stops : List Char → Prop} (reads : Reads reading Written Stops) (stops : Stops [])
    {text : List Char} {value : α} : reading text = some (value, []) ↔ Written value text := by
  constructor
  · intro read
    obtain ⟨part, rfl, written⟩ := reads.sound read
    rwa [List.append_nil]
  · intro written
    have read := reads.complete written stops
    rwa [List.append_nil] at read

/-- The first character is no digit. -/
def NoDigitFirst (text : List Char) : Prop :=
  ∀ c ∈ text.head?, c.isDigit = false

theorem noDigitFirst_nil : NoDigitFirst [] := by
  rintro _ ⟨⟩

theorem noDigitFirst_cons {c : Char} (other : c.isDigit = false) (rest : List Char) :
    NoDigitFirst (c :: rest) := by
  rintro _ ⟨⟩
  exact other

/-- The run of digits denotes the number. -/
structure Denotes (n : Nat) (field : List Char) : Prop where
  digits : ∀ c ∈ field, c.isDigit = true
  value : ofDigits field = n

/-- The number is written in this many digits. -/
def FixedField (width n : Nat) (field : List Char) : Prop :=
  Denotes n field ∧ field.length = width

theorem skip?_eq_some_iff {expected : Char} {text rest : List Char} :
    skip? expected text = some rest ↔ text = expected :: rest := by
  cases text with
  | nil => simp [skip?]
  | cons c text => by_cases same : c = expected <;> simp [skip?, same]

theorem reads_fixedNumber (width : Nat) (Stops : List Char → Prop) :
    Reads (fixedNumber width) (FixedField width) Stops where
  sound := by
    intro text rest value read
    rw [fixedNumber] at read
    split at read
    · rename_i field
      obtain ⟨length, digits⟩ := field
      cases read
      exact ⟨text.take width, (List.take_append_drop width text).symm,
        ⟨List.all_eq_true.mp digits, rfl⟩, length⟩
    · cases read
  complete := by
    rintro part rest value ⟨denotes, rfl⟩ _
    have digits : part.all Char.isDigit = true := List.all_eq_true.mpr denotes.digits
    rw [fixedNumber]
    simp [digits, denotes.value]

theorem reads_number :
    Reads number (fun n field => Denotes n field ∧ field ≠ []) NoDigitFirst where
  sound := by
    intro text rest value read
    rw [number] at read
    split at read
    · cases read
    · rename_i nonempty
      cases read
      refine ⟨_, List.takeWhile_append_dropWhile.symm, ⟨?_, rfl⟩, nonempty⟩
      exact fun c member => List.mem_takeWhile_imp member
  complete := by
    rintro part rest value ⟨denotes, nonempty⟩ stops
    rw [number, takeWhile_append_stop denotes.digits stops, dropWhile_append_stop denotes.digits stops,
      if_neg nonempty, denotes.value]

/-! ## Digits -/

theorem ofDigits_append (front back : List Char) :
    ofDigits (front ++ back) = ofDigits front * 10 ^ back.length + ofDigits back := by
  rw [ofDigits, Nat.ofDigitChars_append, Nat.ofDigitChars_eq_ofDigitChars_zero, Nat.mul_comm]
  rfl

private theorem ofDigits_cons (c : Char) (field : List Char) :
    ofDigits (c :: field) = (c.toNat - '0'.toNat) * 10 ^ field.length + ofDigits field := by
  have single : ofDigits [c] = c.toNat - '0'.toNat := by
    simp [ofDigits, Nat.ofDigitChars_cons, Nat.ofDigitChars_nil]
  rw [← List.singleton_append, ofDigits_append, single]

theorem ofDigits_lt {field : List Char} (digits : ∀ c ∈ field, c.isDigit = true) :
    ofDigits field < 10 ^ field.length := by
  induction field with
  | nil => decide
  | cons c field ih =>
    obtain ⟨first, others⟩ := List.forall_mem_cons.mp digits
    have bound := Char.isDigit_iff_toNat.mp first
    have nine : '9'.toNat = '0'.toNat + 9 := by decide
    have top := Nat.mul_le_mul_right (10 ^ field.length) (show c.toNat - '0'.toNat ≤ 9 by omega)
    have below := ih others
    rw [ofDigits_cons, List.length_cons, Nat.pow_succ]
    omega

/-- Runs of digits of one length denote different numbers. -/
theorem eq_of_ofDigits_eq {field other : List Char} (digits : ∀ c ∈ field, c.isDigit = true)
    (others : ∀ c ∈ other, c.isDigit = true) (length : field.length = other.length)
    (same : ofDigits field = ofDigits other) : field = other := by
  induction field generalizing other with
  | nil => exact (List.length_eq_zero_iff.mp length.symm).symm
  | cons c field ih =>
    obtain ⟨d, other, rfl⟩ := List.exists_cons_of_length_eq_add_one length.symm
    have length := Nat.succ.inj length
    obtain ⟨first, digits⟩ := List.forall_mem_cons.mp digits
    obtain ⟨otherFirst, others⟩ := List.forall_mem_cons.mp others
    have below := ofDigits_lt digits
    have otherBelow := ofDigits_lt others
    rw [ofDigits_cons, ofDigits_cons, length] at same
    rw [length] at below
    -- The leading digit is the quotient by a power of ten, and what the others denote is the remainder.
    have leading := congrArg (· / 10 ^ other.length) same
    have remaining := congrArg (· % 10 ^ other.length) same
    have positive : 0 < 10 ^ other.length := Nat.pow_pos (by decide)
    simp only [Nat.mul_add_mod', Nat.mod_eq_of_lt below, Nat.mod_eq_of_lt otherBelow] at remaining
    simp only [Nat.mul_comm _ (10 ^ other.length), Nat.mul_add_div positive, Nat.div_eq_of_lt below,
      Nat.div_eq_of_lt otherBelow, Nat.add_zero] at leading
    have bounds := Char.isDigit_iff_toNat.mp first
    have otherBounds := Char.isDigit_iff_toNat.mp otherFirst
    have equal : c = d := Char.toNat_inj.mp (by omega)
    rw [equal, ih digits others length remaining]

theorem isDigit_of_mem_paddedDigits {width n : Nat} {c : Char} (member : c ∈ paddedDigits width n) :
    c.isDigit = true := by
  rcases List.mem_append.mp member with filled | member
  · obtain rfl := List.eq_of_mem_replicate filled
    decide
  · exact Nat.isDigit_of_mem_toDigits (by decide) (by decide) member

/-- A number that fits a width is written in that many digits. -/
theorem fixedField_paddedDigits {width n : Nat} (positive : 0 < width) (fits : n < 10 ^ width) :
    FixedField width n (paddedDigits width n) := by
  have length : (digits n).length ≤ width := (Nat.length_toDigits_le_iff (by decide) positive).mpr fits
  refine ⟨⟨fun _ => isDigit_of_mem_paddedDigits, ?_⟩, ?_⟩
  · rw [paddedDigits, ofDigits_append, ofDigits_digits]
    simp [ofDigits, Nat.ofDigitChars_replicate_zero]
  · rw [paddedDigits, List.length_append, List.length_replicate]
    omega

/-- There is one way to write a number in so many digits. -/
theorem FixedField.eq_paddedDigits {width n : Nat} {field : List Char} (positive : 0 < width)
    (written : FixedField width n field) : field = paddedDigits width n ∧ n < 10 ^ width := by
  obtain ⟨⟨digits, rfl⟩, rfl⟩ := written
  have fits := ofDigits_lt digits
  obtain ⟨padded, length⟩ := fixedField_paddedDigits positive fits
  exact ⟨eq_of_ofDigits_eq digits padded.digits length.symm padded.value.symm, fits⟩

theorem isBlank_eq_false_of_isDigit {c : Char} (digit : c.isDigit = true) : isBlank c = false := by
  have bounds := Char.isDigit_iff_toNat.mp digit
  have ends : '0'.toNat = 48 ∧ '9'.toNat = 57 := by decide
  rw [isBlank, Bool.eq_false_iff]
  intro blank
  obtain ⟨range, member, low, high⟩ := inRanges_iff.mp blank
  simp only [blankRanges, List.mem_cons, List.not_mem_nil, or_false] at member
  rcases member with rfl | rfl | rfl | rfl | rfl | rfl | rfl | rfl | rfl | rfl <;> omega

end FieldSearch.Text
