import FieldSearch.Proofs.Sql.Segments
import FieldSearch.Sql.Predicate
import Mathlib.Data.List.Basic

/-! # The structure of a predicate

A predicate is cut at its identifiers into the column, once for each of its tests, and text that its
tests alone decide. In this text a question mark stands for each parameter, and no other question mark
stands outside of the identifiers.
-/

namespace FieldSearch.Sql

/-- The segment with a mark in place of an identifier. -/
def Segment.masked : Segment → Char
  | .identifier _ => '@'
  | .bare c => c

/-- The segment is a question mark that the database takes for a parameter. -/
def Segment.isPlaceholder : Segment → Bool
  | .bare c => c == '?'
  | .identifier _ => false

namespace Test

/-- The text in front of a test's column. -/
def before : Test → String
  | .compares _ _ | .present => ""
  | .matchesRegex _ => "regexp_matches("

/-- The text behind a test's column. -/
def behind : Test → String
  | .compares operator _ => " " ++ operator.symbol ++ " ?"
  | .present => " IS NOT NULL"
  | .matchesRegex _ => ", ?)"

/-- The test with a mark in place of its column. -/
def masked (test : Test) : String :=
  test.before ++ "@" ++ test.behind

/-- The segments of a test on a column. -/
def segments (column : List Char) (test : Test) : List Segment :=
  test.before.toList.map .bare ++ .identifier column :: test.behind.toList.map .bare

private theorem toList_render (column : String) (test : Test) : (test.render column).toList =
    test.before.toList ++ ((quote column).toList ++ test.behind.toList) := by
  cases test with
  | compares operator operand =>
    change (quote column ++ " " ++ operator.symbol ++ " ?").toList = _
    simp [before, behind]
  | present =>
    change (quote column ++ " IS NOT NULL").toList = _
    simp [before, behind]
  | matchesRegex regex =>
    change ("regexp_matches(" ++ quote column ++ ", ?)").toList = _
    simp [before, behind]

private theorem quote_notMem_before (test : Test) : '"' ∉ test.before.toList := by
  cases test <;> simp [before]

private theorem quote_notMem_behind (test : Test) : '"' ∉ test.behind.toList := by
  cases test with
  | compares operator operand => cases operator <;> simp [behind, Comparison.symbol]
  | present => simp [behind]
  | matchesRegex regex => simp [behind]

private theorem behind_ne_nil (test : Test) : test.behind.toList ≠ [] := by
  cases test <;> simp [behind]

theorem segments?_render (column : String) (test : Test) {rest : List Char}
    {segments : List Segment} (cut : segments? rest = some segments) :
    segments? ((test.render column).toList ++ rest) =
      some (test.segments column.toList ++ segments) := by
  have framed := segments?_framed column test.quote_notMem_before test.quote_notMem_behind
    test.behind_ne_nil cut
  simpa [toList_render, Test.segments] using framed

/-- The column is the only identifier of a test. -/
theorem identifier_mem_segments_iff {column name : List Char} {test : Test} :
    Segment.identifier name ∈ test.segments column ↔ name = column := by
  simp [segments]

/-- A test has a question mark for its parameter, and none if it has no parameter. -/
theorem countP_segments (column : List Char) (test : Test) :
    (test.segments column).countP Segment.isPlaceholder = test.parameter?.toList.length := by
  have plain (text : List Char) :
      (text.map Segment.bare).countP Segment.isPlaceholder = text.count '?' := by
    rw [List.countP_map]
    rfl
  rw [segments, List.countP_append, List.countP_cons, plain, plain]
  cases test with
  | compares operator operand =>
    cases operator <;> simp [before, behind, Comparison.symbol, parameter?, Segment.isPlaceholder]
  | present => simp [before, behind, parameter?, Segment.isPlaceholder]
  | matchesRegex regex => simp [before, behind, parameter?, Segment.isPlaceholder]

theorem map_masked_segments (column : List Char) (test : Test) :
    (test.segments column).map Segment.masked = test.masked.toList := by
  have plain (text : List Char) : (text.map Segment.bare).map Segment.masked = text := by
    rw [List.map_map]
    exact List.map_id text
  simp [segments, masked, plain, Segment.masked]

end Test

namespace Predicate

/-- The separator of two tests, which holds nothing but text. -/
def separator : List Segment :=
  " AND ".toList.map .bare

/-- The segments of tests on a column. -/
def segments (column : List Char) (tests : List Test) : List Segment :=
  separator.intercalate (tests.map (·.segments column))

private theorem segments_singleton (column : List Char) (test : Test) :
    segments column [test] = test.segments column := by
  simp [segments]

private theorem segments_cons_cons (column : List Char) (test next : Test) (tests : List Test) :
    segments column (test :: next :: tests) =
      test.segments column ++ (separator ++ segments column (next :: tests)) := by
  simp [segments, List.intercalate_cons_cons]

/-- The text of tests is cut into those of each, one after the other. -/
theorem segments?_ofTests (column : String) (tests : List Test) :
    segments? (ofTests column tests).text.toList = some (segments column.toList tests) := by
  rw [ofTests, String.toList_intercalate, List.map_map]
  -- The induction is on the tests. The last one has no separator behind it.
  induction tests with
  | nil => exact Sql.segments?.eq_1
  | cons test tests ih =>
    cases tests with
    | nil =>
      have cut := test.segments?_render column Sql.segments?.eq_1
      rw [List.append_nil, List.append_nil] at cut
      rw [segments_singleton, List.map_singleton, List.intercalate_singleton]
      exact cut
    | cons next tests =>
      have apart : '"' ∉ " AND ".toList := by decide
      have cut := test.segments?_render column (segments?_append apart ih)
      rw [segments_cons_cons, List.map_cons, List.map_cons, List.intercalate_cons_cons,
        List.append_assoc]
      exact cut

theorem identifier_mem_segments_iff {column name : List Char} {test : Test} {tests : List Test} :
    Segment.identifier name ∈ segments column (test :: tests) ↔ name = column := by
  induction tests generalizing test with
  | nil => rw [segments_singleton, Test.identifier_mem_segments_iff]
  | cons next tests ih =>
    have plain : Segment.identifier name ∉ separator := by simp [separator]
    simp [segments_cons_cons, ih, plain, Test.identifier_mem_segments_iff]

theorem countP_segments (column : List Char) (tests : List Test) :
    (segments column tests).countP Segment.isPlaceholder =
      (tests.filterMap (·.parameter?)).length := by
  induction tests with
  | nil => rfl
  | cons test tests ih =>
    have first := test.countP_segments column
    have parameters : ((test :: tests).filterMap (·.parameter?)).length =
        test.parameter?.toList.length + (tests.filterMap (·.parameter?)).length := by
      cases shape : test.parameter? <;> simp [shape, Nat.add_comm]
    rw [parameters, ← ih, ← first]
    cases tests with
    | nil => rw [segments_singleton]; rfl
    | cons next tests =>
      have plain : separator.countP Segment.isPlaceholder = 0 := by decide
      rw [segments_cons_cons, List.countP_append, List.countP_append, plain, Nat.zero_add]

theorem map_masked_segments (column : List Char) (tests : List Test) :
    (segments column tests).map Segment.masked =
      (" AND ".intercalate (tests.map (·.masked))).toList := by
  rw [String.toList_intercalate, List.map_map]
  induction tests with
  | nil => rfl
  | cons test tests ih =>
    cases tests with
    | nil => simp [segments_singleton, Test.map_masked_segments]
    | cons next tests =>
      have plain : separator.map Segment.masked = " AND ".toList := by decide
      rw [segments_cons_cons, List.map_append, List.map_append, Test.map_masked_segments, plain, ih,
        List.map_cons, List.map_cons, List.map_cons, List.intercalate_cons_cons, List.append_assoc]
      rfl

end Predicate

end FieldSearch.Sql
