import FieldSearch.Proofs.Time.Forms

/-! # Instants in their order

Instants are in the order of their seconds, and within a second of their nanoseconds. A leap second has no
count of its own and stands at the end of the second before it. Milliseconds are in the same order but for
two cases: instants within one millisecond fall together, and the milliseconds of a leap second are
counted like those of the second behind it.
-/

namespace FieldSearch.Time

open Text

-- Powers are those of the core library, whatever else is imported.
attribute [local instance (2000)] instPowNat

namespace Instant

/-- The instant comes before the other. -/
def Before (instant other : Instant) : Prop :=
  instant.seconds < other.seconds ∨ instant.seconds = other.seconds ∧ instant.nanos < other.nanos

instance (instant other : Instant) : Decidable (instant.Before other) := by
  unfold Before; infer_instance

/-- The instants are in one millisecond, or the first one is in a leap second and the other in the second
behind it, by no more milliseconds. -/
def Blurred (instant other : Instant) : Prop :=
  instant.seconds = other.seconds ∧ instant.nanos / nanosPerMilli = other.nanos / nanosPerMilli ∨
  instant.seconds + 1 = other.seconds ∧ nanosPerSecond ≤ instant.nanos ∧
    other.nanos / nanosPerMilli ≤ (instant.nanos - nanosPerSecond) / nanosPerMilli

instance (instant other : Instant) : Decidable (instant.Blurred other) := by
  unfold Blurred; infer_instance

/-- Milliseconds keep two instants apart unless they are blurred. No second is longer than two, the second
of them being a leap second. -/
theorem Before.millis_lt_iff {instant other : Instant} (before : instant.Before other)
    (bounded : instant.nanos < 2 * nanosPerSecond) :
    instant.millis < other.millis ↔ ¬ instant.Blurred other := by
  unfold Before at before
  unfold millis Blurred nanosPerMilli nanosPerSecond at *
  omega

end Instant

/-! ## Instants that are read -/

theorem FractionText.nanos_lt {nanos : Nat} {text : List Char} (written : FractionText nanos text) :
    nanos < nanosPerSecond := by
  cases written with
  | absent => decide
  | present allDigits _ =>
    have below := ofDigits_lt allDigits
    rw [Nat.div_lt_iff_lt_mul (Nat.pow_pos (by decide)), Nat.mul_comm nanosPerSecond]
    exact Nat.mul_lt_mul_of_pos_right below (by decide)

theorem TimeText.nanos_lt {Field : Nat → List Char → Prop} {time : TimeOfDay} {text : List Char}
    (written : TimeText Field time text) : time.nanos < 2 * nanosPerSecond := by
  obtain ⟨_, _, _, fraction, made⟩ := written
  have below := fraction.nanos_lt
  unfold TimeOfDay.of? at made
  split at made
  · cases made
  · split at made <;> cases made <;> dsimp only <;> omega

/-- The nanoseconds of an instant that was written for go no further than the end of a leap second. -/
theorem Written.nanos_lt {instant : Instant} {text : List Char} (written : Written instant text) :
    instant.nanos < 2 * nanosPerSecond := by
  rcases written with zoned | plain | zonedDate | plainDate
  · obtain ⟨_, _, time, _⟩ := zoned
    exact time.nanos_lt
  · obtain ⟨_, time⟩ := plain
    exact time.nanos_lt
  · obtain ⟨_, fraction, _⟩ := zonedDate
    exact Nat.lt_of_lt_of_le fraction.nanos_lt (by decide)
  · obtain ⟨_⟩ := plainDate
    change 0 < 2 * nanosPerSecond
    decide

end FieldSearch.Time
