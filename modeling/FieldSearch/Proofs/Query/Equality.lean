import FieldSearch.Proofs.Number.Order
import FieldSearch.Proofs.Query.Structure
import Mathlib.Data.List.Nodup

/-! # Queries with equal predicates

The predicate of a query tells its column and its kind, since the text is cut at the column and each kind
has a text of its own, and it tells the values as they are bound. Nothing else is in it. So two queries
have equal predicates exactly if they ask the same of one column, and equal queries do: what makes literals
equal makes them equal when they are bound.
-/

namespace FieldSearch

open Sql

namespace Sql

/-- The values are of one kind and equal. Floating-point numbers are so as numbers: NaN equals nothing,
and zero equals minus zero. -/
inductive Value.Equal : Value → Value → Prop
  | text (value : String) : Equal (.text value) (.text value)
  | int (value : Int32) : Equal (.int value) (.int value)
  | bigint (value : Int64) : Equal (.bigint value) (.bigint value)
  | float {x y : Number.Binary .single} : x.Equal y → Equal (.float x) (.float y)
  | double {x y : Number.Binary .double} : x.Equal y → Equal (.double x) (.double y)
  | timestamp (millis : Int) : Equal (.timestamp millis) (.timestamp millis)

theorem Value.same_iff_equal {a b : Value} : a.same b = true ↔ a.Equal b := by
  constructor
  · intro same
    cases a <;> cases b <;> try cases same
    case text.text => exact beq_iff_eq.mp same ▸ .text _
    case int.int => exact beq_iff_eq.mp same ▸ .int _
    case bigint.bigint => exact beq_iff_eq.mp same ▸ .bigint _
    case float.float => exact .float (Number.Binary.same_iff_equal.mp same)
    case double.double => exact .double (Number.Binary.same_iff_equal.mp same)
    case timestamp.timestamp => exact beq_iff_eq.mp same ▸ .timestamp _
  · intro equal
    cases equal with
    | text value | int value | bigint value | timestamp value => exact beq_self_eq_true value
    | float equal | double equal => exact Number.Binary.same_iff_equal.mpr equal

private theorem all_zipWith_same_iff {as bs : List Value} :
    (as.length == bs.length && (List.zipWith Value.same as bs).all id) = true ↔
      List.Forall₂ Value.Equal as bs := by
  induction as generalizing bs with
  | nil => cases bs <;> simp
  | cons a as ih =>
    cases bs with
    | nil => simp
    | cons b bs =>
      rw [List.forall₂_cons, ← ih, ← Value.same_iff_equal]
      simp [and_left_comm]

theorem Predicate.same_iff {a b : Predicate} :
    a.same b = true ↔ a.text = b.text ∧ List.Forall₂ Value.Equal a.parameters b.parameters := by
  rw [← all_zipWith_same_iff, ← beq_iff_eq (a := a.text), ← Bool.and_eq_true, ← Bool.and_assoc]
  rfl

end Sql

/-! ## The kind of a predicate -/

namespace Query

/-- All kinds of queries. -/
def Kind.all : List Kind :=
  [.exact, .words,
    .range (.included ()) (.included ()), .range (.included ()) (.excluded ()),
    .range (.included ()) .unbounded, .range (.excluded ()) (.included ()),
    .range (.excluded ()) (.excluded ()), .range (.excluded ()) .unbounded,
    .range .unbounded (.included ()), .range .unbounded (.excluded ()), .range .unbounded .unbounded]

theorem Kind.mem_all (kind : Kind) : kind ∈ all := by
  cases kind with
  | exact | words => decide
  | range lower upper => cases lower <;> cases upper <;> simp [all]

/-- Each kind of queries has a text of its own. -/
theorem Kind.template_injective : Function.Injective Kind.template := by
  have distinct : (all.map Kind.template).Nodup := by decide
  intro kind other same
  exact List.inj_on_of_nodup_map distinct kind.mem_all other.mem_all same

/-- The text of a predicate tells the column and the kind of its query. -/
theorem column_and_kind_of_text {query other : Query}
    (same : query.predicate.text = other.predicate.text) :
    query.column = other.column ∧ query.kind = other.kind := by
  have cut := Predicate.segments?_ofTests query.column query.tests
  have again := Predicate.segments?_ofTests other.column other.tests
  have segments : Predicate.segments query.column.toList query.tests =
      Predicate.segments other.column.toList other.tests := by
    change segments? query.predicate.text.toList = _ at cut
    rw [same] at cut
    exact Option.some_inj.mp (cut.symm.trans again)
  constructor
  · obtain ⟨test, tests, shape⟩ := query.exists_tests_eq_cons
    obtain ⟨more, others, otherShape⟩ := other.exists_tests_eq_cons
    have named : Segment.identifier query.column.toList ∈
        Predicate.segments query.column.toList query.tests :=
      shape ▸ Predicate.identifier_mem_segments_iff.mpr rfl
    rw [segments, otherShape, Predicate.identifier_mem_segments_iff] at named
    exact String.toList_inj.mp named
  · have masked := congrArg (List.map Segment.masked) segments
    rw [Predicate.map_masked_segments, Predicate.map_masked_segments, map_masked_tests,
      map_masked_tests] at masked
    exact Kind.template_injective (String.toList_inj.mp masked)

end Query

/-! ## Queries -/

/-- Ends of one kind, with values that are equal when they are bound. -/
inductive Endpoint.Alike : Endpoint Literal → Endpoint Literal → Prop
  | included {a b : Literal} : a.toSql.Equal b.toSql → Alike (.included a) (.included b)
  | excluded {a b : Literal} : a.toSql.Equal b.toSql → Alike (.excluded a) (.excluded b)
  | unbounded : Alike .unbounded .unbounded

/-- Queries that ask the same of one column. -/
inductive Query.Alike : Query → Query → Prop
  | exact {column : String} {a b : Literal} : a.toSql.Equal b.toSql →
      Alike (.exact column a) (.exact column b)
  | range {column : String} {lower upper otherLower otherUpper : Endpoint Literal} :
      lower.Alike otherLower → upper.Alike otherUpper →
      Alike (.range column lower upper) (.range column otherLower otherUpper)
  | words {column : String} {pattern other : WordPattern} :
      pattern.regex.source = other.regex.source →
      Alike (.words column pattern) (.words column other)

namespace Endpoint

/-- What is bound for the end. -/
def parameters (endpoint : Endpoint Literal) : List Value :=
  (endpoint.value?.map Literal.toSql).toList

variable {low high otherLow otherHigh : Endpoint Literal}

theorem Alike.parameters (alike : low.Alike otherLow) :
    List.Forall₂ Value.Equal low.parameters otherLow.parameters := by
  cases alike with
  | included equal | excluded equal => exact .cons equal .nil
  | unbounded => exact .nil

theorem alike_of_parameters (kind : high.kind = otherHigh.kind)
    (equal : List.Forall₂ Value.Equal high.parameters otherHigh.parameters) :
    high.Alike otherHigh := by
  cases high <;> cases otherHigh <;> cases kind
  case included.included => exact .included (List.forall₂_cons.mp equal).1
  case excluded.excluded => exact .excluded (List.forall₂_cons.mp equal).1
  case unbounded.unbounded => exact .unbounded

/-- The kinds of two ends tell which value is bound for which of them. -/
theorem both_alike_of_parameters (lowKind : low.kind = otherLow.kind)
    (highKind : high.kind = otherHigh.kind)
    (equal : List.Forall₂ Value.Equal (low.parameters ++ high.parameters)
      (otherLow.parameters ++ otherHigh.parameters)) : low.Alike otherLow ∧ high.Alike otherHigh := by
  have bound : low.parameters.length = otherLow.parameters.length := by
    cases low <;> cases otherLow <;> cases lowKind <;> rfl
  have lower := List.forall₂_take low.parameters.length equal
  have upper := List.forall₂_drop low.parameters.length equal
  rw [List.take_left, List.take_left' bound.symm] at lower
  rw [List.drop_left, List.drop_left' bound.symm] at upper
  exact ⟨alike_of_parameters lowKind lower, alike_of_parameters highKind upper⟩

end Endpoint

namespace Query

variable {query other : Query}

theorem Alike.predicate_same (alike : query.Alike other) :
    query.predicate.same other.predicate = true := by
  apply Predicate.same_iff.mpr
  cases alike with
  | exact equal => exact ⟨rfl, .cons equal .nil⟩
  | range lower upper =>
    refine ⟨by cases lower <;> cases upper <;> rfl, ?_⟩
    rw [parameters_range, parameters_range]
    exact List.rel_append lower.parameters upper.parameters
  | words source => exact ⟨rfl, .cons (source ▸ .text _) .nil⟩

theorem alike_of_predicate_same (same : query.predicate.same other.predicate = true) :
    query.Alike other := by
  obtain ⟨text, parameters⟩ := Predicate.same_iff.mp same
  obtain ⟨column, kind⟩ := column_and_kind_of_text text
  -- The kinds keep queries of two sorts apart, so only pairs of one sort are left.
  cases query <;> cases other <;> try cases kind
  case exact.exact =>
    obtain rfl := column
    exact .exact (List.forall₂_cons.mp parameters).1
  case range.range =>
    obtain rfl := column
    obtain ⟨lower, upper⟩ := Kind.range.inj kind
    rw [parameters_range, parameters_range] at parameters
    obtain ⟨low, high⟩ := Endpoint.both_alike_of_parameters lower upper parameters
    exact .range low high
  case words.words =>
    obtain rfl := column
    have sources := Value.same_iff_equal.mpr (List.forall₂_cons.mp parameters).1
    exact .words (beq_iff_eq.mp sources)

end Query

/-- Equal literals are equal when they are bound. -/
theorem Literal.toSql_equal_of_same {a b : Literal} (same : a.same b = true) :
    a.toSql.Equal b.toSql := by
  rw [← Value.same_iff_equal]
  cases a <;> cases b <;> try cases same
  case text.text | int.int | long.long | float.float | double.double => exact same
  case instant.instant a b =>
    obtain rfl := beq_iff_eq.mp same
    exact beq_self_eq_true a.millis

theorem Endpoint.alike_of_same {endpoint other : Endpoint Literal}
    (same : endpoint.same other = true) : endpoint.Alike other := by
  cases endpoint <;> cases other <;> try cases same
  case included.included => exact .included (Literal.toSql_equal_of_same same)
  case excluded.excluded => exact .excluded (Literal.toSql_equal_of_same same)
  case unbounded.unbounded => exact .unbounded

namespace Query

theorem alike_of_same {query other : Query} (same : query.same other = true) :
    query.Alike other := by
  cases query <;> cases other <;> try cases same
  case exact.exact =>
    obtain ⟨column, value⟩ := Bool.and_eq_true_iff.mp same
    obtain rfl := beq_iff_eq.mp column
    exact .exact (Literal.toSql_equal_of_same value)
  case range.range =>
    obtain ⟨front, upper⟩ := Bool.and_eq_true_iff.mp same
    obtain ⟨column, lower⟩ := Bool.and_eq_true_iff.mp front
    obtain rfl := beq_iff_eq.mp column
    exact .range (Endpoint.alike_of_same lower) (Endpoint.alike_of_same upper)
  case words.words =>
    obtain ⟨column, pattern⟩ := Bool.and_eq_true_iff.mp same
    obtain rfl := beq_iff_eq.mp column
    obtain rfl := beq_iff_eq.mp pattern
    exact .words rfl

/-- Two queries have equal predicates exactly if they are of one kind, the kinds of their ends included,
and ask for values that are equal when they are bound, or for the same regular expression, in one column.
Equal queries do. -/
theorem predicate_same_iff_alike (query other : Query) :
    (query.predicate.same other.predicate = true ↔ query.Alike other) ∧
    (query.same other = true → query.predicate.same other.predicate = true) :=
  ⟨⟨alike_of_predicate_same, Alike.predicate_same⟩, fun same => (alike_of_same same).predicate_same⟩

/-- Zero is bound like minus zero, and the end of a range on one side is not like that on the other. -/
theorem predicate_same_of_zeros :
    let zero : Literal := .double (.ofBits 0)
    let minusZero : Literal := .double (.ofBits 0x8000000000000000)
    (exact "x" zero).same (.exact "x" minusZero) = true ∧
    (exact "x" zero).predicate.same (exact "x" minusZero).predicate = true ∧
    (range "x" (.included zero) .unbounded).predicate.same
      (range "x" .unbounded (.included zero)).predicate = false := by
  have equal : (exact "x" (.double (.ofBits 0))).same
      (.exact "x" (.double (.ofBits 0x8000000000000000))) = true := by decide
  refine ⟨equal, (predicate_same_iff_alike _ _).2 equal, ?_⟩
  apply Bool.eq_false_iff.mpr
  intro same
  cases (predicate_same_iff_alike _ _).1.mp same with
  | range lower upper => cases lower

end Query

end FieldSearch
