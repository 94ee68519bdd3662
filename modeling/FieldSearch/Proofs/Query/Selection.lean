import FieldSearch.Proofs.Sql.Condition
import FieldSearch.Query

/-! # Rows selected by a query

The predicate of an exact value or of a range is a condition of one reading, takes up all of its
parameters, and selects the rows whose value in the query's column is the one asked for or lies
between the ends. A row without a value in the column is never selected. The name of the column may be
any text at all, quotation marks and pieces of conditions included.
-/

namespace FieldSearch

open Sql

variable {Stored : Type} [LinearOrder Stored]

namespace Endpoint

/-- The value lies on the inner side of a lower end. -/
def AdmitsAbove (stored : Sql.Value → Stored) (value : Stored) : Endpoint Literal → Prop
  | .included bound => stored bound.toSql ≤ value
  | .excluded bound => stored bound.toSql < value
  | .unbounded => True

/-- The value lies on the inner side of an upper end. -/
def AdmitsBelow (stored : Sql.Value → Stored) (value : Stored) : Endpoint Literal → Prop
  | .included bound => value ≤ stored bound.toSql
  | .excluded bound => value < stored bound.toSql
  | .unbounded => True

/-- The test of a lower end is a comparison, if there is one. -/
theorem exists_writtenAs_lowerTest (column : String) (lower : Endpoint Literal) :
    ∃ columnTests, List.Forall₂ (Test.WrittenAs column) lower.lowerTest columnTests := by
  cases lower with
  | included bound => exact ⟨_, .cons .compares .nil⟩
  | excluded bound => exact ⟨_, .cons .compares .nil⟩
  | unbounded => exact ⟨_, .nil⟩

/-- The test of an upper end is a comparison, if there is one. -/
theorem exists_writtenAs_upperTest (column : String) (upper : Endpoint Literal) :
    ∃ columnTests, List.Forall₂ (Test.WrittenAs column) upper.upperTest columnTests := by
  cases upper with
  | included bound => exact ⟨_, .cons .compares .nil⟩
  | excluded bound => exact ⟨_, .cons .compares .nil⟩
  | unbounded => exact ⟨_, .nil⟩

theorem passes_lowerTest_iff (stored : Sql.Value → Stored) (value : Stored)
    (lower : Endpoint Literal) :
    (∀ test ∈ lower.lowerTest, test.Passes stored (some value)) ↔ lower.AdmitsAbove stored value := by
  cases lower <;> simp [lowerTest, AdmitsAbove, Test.Passes, Comparison.holds]

theorem passes_upperTest_iff (stored : Sql.Value → Stored) (value : Stored)
    (upper : Endpoint Literal) :
    (∀ test ∈ upper.upperTest, test.Passes stored (some value)) ↔ upper.AdmitsBelow stored value := by
  cases upper <;> simp [upperTest, AdmitsBelow, Test.Passes, Comparison.holds]

end Endpoint

namespace Query

/-- The tests of a range are ones that a condition can be written with, one at least. -/
theorem exists_writtenAs_range (column : String) (lower upper : Endpoint Literal) :
    ∃ test tests columnTests, (range column lower upper).tests = test :: tests ∧
      List.Forall₂ (Test.WrittenAs column) (test :: tests) columnTests := by
  obtain ⟨lowerTests, lowerWritten⟩ := lower.exists_writtenAs_lowerTest column
  obtain ⟨upperTests, upperWritten⟩ := upper.exists_writtenAs_upperTest column
  have written : List.Forall₂ (Test.WrittenAs column) (lower.lowerTest ++ upper.upperTest) _ :=
    List.rel_append lowerWritten upperWritten
  simp only [tests]
  cases bounds : lower.lowerTest ++ upper.upperTest with
  | nil => exact ⟨.present, [], _, rfl, .cons .present .nil⟩
  | cons test tests => exact ⟨test, tests, _, rfl, bounds ▸ written⟩

/-- A value passes the tests of a range if it lies between the ends. -/
theorem passes_range_iff (stored : Sql.Value → Stored) (value : Stored) (column : String)
    (lower upper : Endpoint Literal) :
    (∀ test ∈ (range column lower upper).tests, test.Passes stored (some value)) ↔
      lower.AdmitsAbove stored value ∧ upper.AdmitsBelow stored value := by
  have ends := and_congr (lower.passes_lowerTest_iff stored value)
    (upper.passes_upperTest_iff stored value)
  rw [← List.forall_mem_append] at ends
  simp only [tests]
  rw [← ends]
  cases lower.lowerTest ++ upper.upperTest with
  | nil => simp [Test.Passes]
  | cons test tests => exact Iff.rfl

/-- A query of tests that a condition can be written with selects the rows whose value in its column
passes them all. -/
theorem selects_of_tests {query : Query} {test : Test} {tests : List Test}
    {columnTests : List ColumnTest} (shape : query.tests = test :: tests)
    (written : List.Forall₂ (Test.WrittenAs query.column) (test :: tests) columnTests)
    (stored : Sql.Value → Stored) (row : String → Option Stored) :
    query.predicate.Selects stored row (∃ value, row query.column = some value ∧
      ∀ other ∈ query.tests, other.Passes stored (some value)) := by
  have selects := selects_ofTests written stored row
  rw [predicate, shape]
  convert selects using 1
  cases value : row query.column with
  | none =>
    cases written with
    | cons first _ =>
      have failed := first.not_passes_none stored
      simp [failed]
  | some value => simp

/-- A range selects the rows that hold a value on the inner side of both ends. -/
theorem selects_range (stored : Sql.Value → Stored) (row : String → Option Stored) (column : String)
    (lower upper : Endpoint Literal) : (range column lower upper).predicate.Selects stored row
      (∃ x, row column = some x ∧ lower.AdmitsAbove stored x ∧ upper.AdmitsBelow stored x) := by
  obtain ⟨test, tests, columnTests, shape, written⟩ := exists_writtenAs_range column lower upper
  have selects := selects_of_tests shape written stored row
  simpa only [passes_range_iff, Query.column] using selects

/-- The predicate of an exact value selects the rows that hold this value in the column, and that of a
range those that hold one between its ends. A range open at both ends selects the rows that hold any
value there. -/
theorem predicate_selects (stored : Sql.Value → Stored) (row : String → Option Stored)
    (column : String) :
    (∀ value : Literal, (exact column value).predicate.Selects stored row
      (∃ x, row column = some x ∧ x = stored value.toSql)) ∧
    (∀ lower upper : Endpoint Literal, (range column lower upper).predicate.Selects stored row
      (∃ x, row column = some x ∧ lower.AdmitsAbove stored x ∧ upper.AdmitsBelow stored x)) ∧
    (range column .unbounded .unbounded).predicate.Selects stored row (row column ≠ none) := by
  refine ⟨?_, selects_range stored row column, ?_⟩
  · intro value
    have shape : (exact column value).tests = [.compares .equal value.toSql] := rfl
    have selects := selects_of_tests shape (.cons .compares .nil) stored row
    simpa [shape, Query.column, Test.Passes, Comparison.holds] using selects
  · have selects := selects_range stored row column .unbounded .unbounded
    simpa [Endpoint.AdmitsAbove, Endpoint.AdmitsBelow, Option.ne_none_iff_exists'] using selects

end Query

end FieldSearch
