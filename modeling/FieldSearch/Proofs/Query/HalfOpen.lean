import FieldSearch.Proofs.Number.Order
import FieldSearch.Proofs.Query.Selection
import FieldSearch.Proofs.Query.Sides
import FieldSearch.Proofs.Query.Structure
import FieldSearch.Proofs.Time.Order
import FieldSearch.Proofs.Time.Stamp

/-! # Half-open ranges

A range that includes its lower value and excludes its upper one never selects the upper value, and selects
the lower one if the two are still apart when they are bound. Numbers are: what is bound is the number
itself. Dates are bound, as they are ordered, by their milliseconds, and where two of them are blurred the
range has neither.
-/

namespace FieldSearch

open Sql Number

namespace Literal

/-- The first value comes before the other, as numbers do or as instants do. Text has no such order. -/
def Below : Literal → Literal → Prop
  | .int a, .int b => a.toInt < b.toInt
  | .long a, .long b => a.toInt < b.toInt
  | .float a, .float b => a.Below b
  | .double a, .double b => a.Below b
  | .instant a, .instant b => a.Before b
  | _, _ => False

/-- The values are dates that milliseconds do not keep apart. -/
def Blurred : Literal → Literal → Prop
  | .instant a, .instant b => a.Blurred b
  | _, _ => False

end Literal

namespace Sql.Value

/-- The first value comes before the other in the natural order of their kind. -/
def Below : Value → Value → Prop
  | .int a, .int b => a.toInt < b.toInt
  | .bigint a, .bigint b => a.toInt < b.toInt
  | .float a, .float b => a.Below b
  | .double a, .double b => a.Below b
  | .timestamp a, .timestamp b => a < b
  | _, _ => False

/-- What the database stores is in the natural order of the values. -/
def KeepsOrder {Stored : Type} [LinearOrder Stored] (stored : Value → Stored) : Prop :=
  ∀ a b : Value, a.Below b → stored a < stored b

/-- The place of a value among those of its kind. -/
def place : Value → Int
  | .text _ => 0
  | .int a => a.toInt
  | .bigint a => a.toInt
  | .float a => a.rank
  | .double a => a.rank
  | .timestamp a => a

theorem keepsOrder_place : KeepsOrder place := by
  intro a b below
  cases a <;> cases b <;> try exact below.elim
  case int.int | bigint.bigint | timestamp.timestamp => exact below
  case float.float | double.double => exact Binary.Below.rank_lt below

end Sql.Value

/-! ## Values when they are bound -/

namespace Literal

variable {low high : Literal} {type : Datatype} {text : String}

theorem nanos_lt_of_read {instant : Time.Instant}
    (success : read type text = .ok (.instant instant)) :
    instant.nanos < 2 * Time.nanosPerSecond := by
  have kind := Query.kind_toSql_of_read success
  cases type with
  | date =>
    obtain ⟨_, written, same⟩ := Time.read_date_eq_ok_iff.mp success
    cases same
    exact written.nanos_lt
  | text | string | int | long | float | double => cases kind

/-- Only dates are read as instants. -/
theorem not_blurred_of_read (success : read type text = .ok low) (notDate : type ≠ .date) :
    ¬ low.Blurred high := by
  have kind := Query.kind_toSql_of_read success
  cases low with
  | instant _ =>
    cases type with
    | date => exact absurd rfl notDate
    | text | string | int | long | float | double => cases kind
  | text | int | long | float | double => exact not_false

/-- What is bound for the first value comes before what is bound for the other, unless they are blurred. -/
theorem Below.toSql_below_iff (below : low.Below high)
    (bounded : ∀ instant, low = .instant instant → instant.nanos < 2 * Time.nanosPerSecond) :
    low.toSql.Below high.toSql ↔ ¬ low.Blurred high := by
  cases low <;> cases high <;> try exact below.elim
  case int.int | long.long | float.float | double.double => exact iff_of_true below not_false
  case instant.instant a b => exact below.millis_lt_iff (bounded a rfl)

/-- Milliseconds that do not keep dates apart do not put the first one in front either. -/
theorem Below.stored_lt_iff {Stored : Type} [LinearOrder Stored] {stored : Sql.Value → Stored}
    (keeps : Sql.Value.KeepsOrder stored) (below : low.Below high)
    (bounded : ∀ instant, low = .instant instant → instant.nanos < 2 * Time.nanosPerSecond) :
    stored low.toSql < stored high.toSql ↔ ¬ low.Blurred high := by
  rw [← below.toSql_below_iff bounded]
  constructor
  · intro less
    by_contra notBelow
    have blurred : low.Blurred high := by
      by_contra sharp
      exact notBelow ((below.toSql_below_iff bounded).mpr sharp)
    cases low <;> cases high <;> try exact blurred.elim
    case instant.instant a b =>
      have reversed : b.millis ≤ a.millis := not_lt.mp notBelow
      rcases lt_or_eq_of_le reversed with later | same
      · exact lt_asymm less (keeps (.timestamp b.millis) (.timestamp a.millis) later)
      · rw [toSql, toSql, same] at less
        exact lt_irrefl _ less
  · exact keeps _ _

end Literal

/-! ## Rows -/

/-- There is one condition to ask, and it answers alike each time. -/
theorem Sql.Predicate.Selects.selects_iff {Stored : Type} [LinearOrder Stored]
    {stored : Sql.Value → Stored} {predicate : Predicate} {row : String → Option Stored}
    {selected other : Prop} (selects : predicate.Selects stored row selected) :
    predicate.Selects stored row other ↔ (selected ↔ other) := by
  constructor
  · intro again
    obtain ⟨condition, parsed, _⟩ := selects.1
    obtain ⟨answer, run, same⟩ := selects.2 condition parsed
    obtain ⟨answerAgain, runAgain, sameAgain⟩ := again.2 condition parsed
    cases run.symm.trans runAgain
    exact same.symm.trans sameAgain
  · intro same
    exact propext same ▸ selects

namespace Query

variable {Stored : Type} [LinearOrder Stored] {stored : Sql.Value → Stored}
  {row : String → Option Stored} {column : String} {low high : Literal}

/-- The lower value is selected if it is stored before the upper one. -/
theorem selects_halfOpen_lower (holds : row column = some (stored low.toSql)) :
    (range column (.included low) (.excluded high)).predicate.Selects stored row
      (stored low.toSql < stored high.toSql) := by
  apply (selects_range stored row column _ _).selects_iff.mpr
  simp [holds, Endpoint.AdmitsAbove, Endpoint.AdmitsBelow]

theorem selects_halfOpen_upper (holds : row column = some (stored high.toSql)) :
    (range column (.included low) (.excluded high)).predicate.Selects stored row False := by
  apply (selects_range stored row column _ _).selects_iff.mpr
  simp [holds, Endpoint.AdmitsBelow]

end Query

namespace Datatype

variable {type : Datatype} {settings : Settings} {column lower upper : String} {low high : Literal}

theorem readRange_halfOpen (lowRead : Literal.read type lower = .ok low)
    (highRead : Literal.read type upper = .ok high) (lowClosed : lower ≠ settings.openMark)
    (highClosed : upper ≠ settings.openMark) :
    type.readRange settings column (some lower) (some upper) true false =
      .ok (.range column (.included low) (.excluded high)) :=
  (readRange_eq_iff fun _ _ => Iff.rfl).mpr
    (.range (.included lowClosed lowRead) (.excluded highClosed highRead))

/-- Two texts whose values come one before the other make a half-open range. It never selects a row with
the upper value, and selects a row with the lower one unless the two are blurred: then what is bound for
them is no longer in order. Only dates are ever blurred. -/
theorem selects_lower_not_upper (lowRead : Literal.read type lower = .ok low)
    (highRead : Literal.read type upper = .ok high) (below : low.Below high)
    (lowClosed : lower ≠ settings.openMark) (highClosed : upper ≠ settings.openMark) :
    (type ≠ .date → ¬ low.Blurred high) ∧ (low.toSql.Below high.toSql ↔ ¬ low.Blurred high) ∧
    ∃ query, type.readRange settings column (some lower) (some upper) true false = .ok query ∧
      ∀ (Stored : Type) [LinearOrder Stored] (stored : Sql.Value → Stored)
        (row : String → Option Stored), Sql.Value.KeepsOrder stored →
        (row column = some (stored low.toSql) →
          query.predicate.Selects stored row (¬ low.Blurred high)) ∧
        (row column = some (stored high.toSql) → query.predicate.Selects stored row False) := by
  have bounded : ∀ instant, low = .instant instant → instant.nanos < 2 * Time.nanosPerSecond := by
    rintro instant rfl
    exact Literal.nanos_lt_of_read lowRead
  refine ⟨Literal.not_blurred_of_read lowRead, below.toSql_below_iff bounded, _,
    readRange_halfOpen lowRead highRead lowClosed highClosed, ?_⟩
  intro Stored _ stored row keeps
  constructor
  · intro holds
    apply (Query.selects_halfOpen_lower holds).selects_iff.mpr
    exact below.stored_lt_iff keeps bounded
  · exact Query.selects_halfOpen_upper

/-- A tenth of a millisecond is enough to keep dates apart where a millisecond begins, here the last one
before the epoch. -/
theorem selects_lower_not_upper_before_epoch :
    Literal.read .date "1969-12-31T23:59:59.9989Z" = .ok (.instant ⟨-1, 998900000⟩) ∧
    Literal.read .date "1969-12-31T23:59:59.9990Z" = .ok (.instant ⟨-1, 999000000⟩) ∧
    (Literal.instant ⟨-1, 998900000⟩).Below (.instant ⟨-1, 999000000⟩) ∧
    ∃ query, Datatype.date.readRange {} "at" (some "1969-12-31T23:59:59.9989Z")
        (some "1969-12-31T23:59:59.9990Z") true false = .ok query ∧
      query.predicate.Selects Sql.Value.place (fun _ => some (-2)) True ∧
      query.predicate.Selects Sql.Value.place (fun _ => some (-1)) False := by
  have lowRead : Literal.read .date "1969-12-31T23:59:59.9989Z" =
      .ok (.instant ⟨-1, 998900000⟩) := by rfl
  have highRead : Literal.read .date "1969-12-31T23:59:59.9990Z" =
      .ok (.instant ⟨-1, 999000000⟩) := by rfl
  have below : (Literal.instant ⟨-1, 998900000⟩).Below (.instant ⟨-1, 999000000⟩) :=
    .inr ⟨rfl, by decide⟩
  have sharp : ¬ (Literal.instant ⟨-1, 998900000⟩).Blurred (.instant ⟨-1, 999000000⟩) :=
    (by decide : ¬ (⟨-1, 998900000⟩ : Time.Instant).Blurred ⟨-1, 999000000⟩)
  obtain ⟨_, _, query, made, selects⟩ := @selects_lower_not_upper .date {} "at" _ _ _ _
    lowRead highRead below (by decide) (by decide)
  refine ⟨lowRead, highRead, below, query, made, ?_, ?_⟩
  · have lower := (selects Int Sql.Value.place (fun _ => some (-2)) Sql.Value.keepsOrder_place).1 rfl
    exact lower.selects_iff.mpr (iff_true_intro sharp)
  · exact (selects Int Sql.Value.place (fun _ => some (-1)) Sql.Value.keepsOrder_place).2 rfl

/-- A range between values that are bound alike does not select them. -/
private theorem not_selects_of_toSql_eq (lowRead : Literal.read type lower = .ok low)
    (highRead : Literal.read type upper = .ok high) (lowClosed : lower ≠ settings.openMark)
    (highClosed : upper ≠ settings.openMark) (same : low.toSql = high.toSql) :
    ∃ query, type.readRange settings column (some lower) (some upper) true false = .ok query ∧
      ¬ query.predicate.Selects Sql.Value.place (fun _ => some low.toSql.place) True := by
  refine ⟨_, readRange_halfOpen lowRead highRead lowClosed highClosed, fun selects => ?_⟩
  have halfOpen : (Query.range column (.included low) (.excluded high)).predicate.Selects
      Sql.Value.place (fun _ => some low.toSql.place) (low.toSql.place < high.toSql.place) :=
    Query.selects_halfOpen_lower rfl
  rw [halfOpen.selects_iff, same] at selects
  exact lt_irrefl _ (selects.mpr trivial)

/-- Two dates within a millisecond, and a leap second and the second behind it: each time the first date
comes before the other and is not in the range from it up to the other. -/
theorem not_selects_lower_of_blurred :
    (∃ low high, Literal.read .date "2024-01-31T00:00:00.0001Z" = .ok low ∧
      Literal.read .date "2024-01-31T00:00:00.0002Z" = .ok high ∧ low.Below high ∧
      ∃ query, Datatype.date.readRange {} "at" (some "2024-01-31T00:00:00.0001Z")
          (some "2024-01-31T00:00:00.0002Z") true false = .ok query ∧
        ¬ query.predicate.Selects Sql.Value.place (fun _ => some low.toSql.place) True) ∧
    (∃ low high, Literal.read .date "2016-12-31T23:59:60Z" = .ok low ∧
      Literal.read .date "2017-01-01T00:00:00Z" = .ok high ∧ low.Below high ∧
      ∃ query, Datatype.date.readRange {} "at" (some "2016-12-31T23:59:60Z")
          (some "2017-01-01T00:00:00Z") true false = .ok query ∧
        ¬ query.predicate.Selects Sql.Value.place (fun _ => some low.toSql.place) True) := by
  constructor
  · have lowRead : Literal.read .date "2024-01-31T00:00:00.0001Z" =
        .ok (.instant ⟨1706659200, 100000⟩) := by rfl
    have highRead : Literal.read .date "2024-01-31T00:00:00.0002Z" =
        .ok (.instant ⟨1706659200, 200000⟩) := by rfl
    refine ⟨_, _, lowRead, highRead, .inr ⟨rfl, by decide⟩, ?_⟩
    exact not_selects_of_toSql_eq lowRead highRead (by decide) (by decide) rfl
  · have lowRead : Literal.read .date "2016-12-31T23:59:60Z" =
        .ok (.instant ⟨1483228799, 1000000000⟩) := by rfl
    have highRead : Literal.read .date "2017-01-01T00:00:00Z" =
        .ok (.instant ⟨1483228800, 0⟩) := by rfl
    refine ⟨_, _, lowRead, highRead, .inl (by decide), ?_⟩
    exact not_selects_of_toSql_eq lowRead highRead (by decide) (by decide) rfl

end Datatype

end FieldSearch
