import FieldSearch.Proofs.Fault.Sequence
import FieldSearch.Proofs.Sql.Structure
import FieldSearch.Query

/-! # What names and values cannot change in a predicate

The predicate of a query is one of eleven fixed texts, up to the name of the column. Neither the name nor
any value can add to it: the name stays inside of its quotes, and each question mark outside of them is
bound to one value. The values of a query that was read for a field are all of the kind that the type
of the field is stored as.
-/

namespace FieldSearch

open Sql

namespace Sql.Value

/-- The kinds of values that a database keeps apart. -/
inductive Kind where
  | text
  | int
  | bigint
  | float
  | double
  | timestamp
deriving DecidableEq, Repr

/-- The kind of a value. -/
def kind : Value → Kind
  | .text _ => .text
  | .int _ => .int
  | .bigint _ => .bigint
  | .float _ => .float
  | .double _ => .double
  | .timestamp _ => .timestamp

end Sql.Value

/-- The kind of value that a datatype is stored as. -/
def Datatype.valueKind : Datatype → Sql.Value.Kind
  | .text | .string => .text
  | .int => .int
  | .long => .bigint
  | .float => .float
  | .double => .double
  | .date => .timestamp

/-! ## The text -/

namespace Endpoint

/-- The kind of an end, whatever its value is. -/
def kind {α : Type} : Endpoint α → Endpoint Unit
  | .included _ => .included ()
  | .excluded _ => .excluded ()
  | .unbounded => .unbounded

/-- The condition of a lower end, with a mark in place of the column. -/
def lowerCondition : Endpoint Unit → List String
  | .included _ => ["@ >= ?"]
  | .excluded _ => ["@ > ?"]
  | .unbounded => []

/-- The condition of an upper end, with a mark in place of the column. -/
def upperCondition : Endpoint Unit → List String
  | .included _ => ["@ <= ?"]
  | .excluded _ => ["@ < ?"]
  | .unbounded => []

end Endpoint

namespace Query

/-- The kinds of queries. Those of ranges differ in the kinds of their ends. -/
inductive Kind where
  | exact
  | range (lower upper : Endpoint Unit)
  | words
deriving DecidableEq

/-- The kind of a query, whatever its column and its values are. -/
def kind : Query → Kind
  | .exact _ _ => .exact
  | .range _ lower upper => .range lower.kind upper.kind
  | .words _ _ => .words

/-- The conditions of a kind of queries, with a mark in place of the column. -/
def Kind.conditions : Kind → List String
  | .exact => ["@ = ?"]
  | .range .unbounded .unbounded => ["@ IS NOT NULL"]
  | .range lower upper => lower.lowerCondition ++ upper.upperCondition
  | .words => ["regexp_matches(@, ?)"]

/-- The predicate of a kind of queries, with a mark in place of the column. -/
def Kind.template (kind : Kind) : String :=
  " AND ".intercalate kind.conditions

/-- A query asks something of its column. -/
theorem exists_tests_eq_cons (query : Query) : ∃ test tests, query.tests = test :: tests := by
  cases query with
  | exact column value => exact ⟨_, _, rfl⟩
  | range column lower upper =>
    rw [tests]
    split
    · exact ⟨_, _, rfl⟩
    · rename_i asked
      exact List.exists_cons_of_ne_nil asked
  | words column pattern => exact ⟨_, _, rfl⟩

theorem map_masked_tests (query : Query) : query.tests.map Test.masked = query.kind.conditions := by
  cases query with
  | exact column value => rfl
  | range column lower upper =>
    cases lower <;> cases upper <;> rfl
  | words column pattern => rfl

/-! ## The values -/

/-- A literal is stored as the type says that it was read with. -/
theorem kind_toSql_of_read {type : Datatype} {text : String} {value : Literal}
    (success : Literal.read type text = .ok value) : value.toSql.kind = type.valueKind := by
  have parsed := Literal.read_eq_ok_iff.mp success
  cases type with
  | text =>
    rw [Literal.ofText] at parsed
    split at parsed
    · cases parsed
    · cases parsed
      rfl
  | string =>
    cases parsed
    rfl
  | int | long | float | double | date =>
    obtain ⟨_, _, made⟩ := bind_eq_ok_iff.mp parsed
    cases made
    rfl

private theorem kind_of_readEndpoint {type : Datatype} {openMark : String} {text : Option String}
    {inclusive : Bool} {endpoint : Endpoint Literal}
    (success : type.readEndpoint openMark text inclusive = .ok endpoint) :
    ∀ value ∈ endpoint.value?, value.toSql.kind = type.valueKind := by
  unfold Datatype.readEndpoint at success
  split at success
  · cases success
    simp [Endpoint.value?]
  · split at success
    · cases success
      simp [Endpoint.value?]
    · obtain ⟨value, read, made⟩ := bind_eq_ok_iff.mp success
      have only : endpoint.value? = some value := by
        cases inclusive <;> cases made <;> rfl
      intro other same
      rw [only] at same
      obtain rfl := Option.some_inj.mp same
      exact kind_toSql_of_read read

theorem parameters_range (column : String) (lower upper : Endpoint Literal) :
    (range column lower upper).predicate.parameters =
      (lower.value?.map Literal.toSql).toList ++ (upper.value?.map Literal.toSql).toList := by
  cases lower <;> cases upper <;> rfl

theorem kind_of_readRange {field : Field} {settings : Settings} {lower upper : Option String}
    {lowerInclusive upperInclusive : Bool} {query : Query}
    (success : field.readRange settings lower upper lowerInclusive upperInclusive = .ok query) :
    ∀ value ∈ query.predicate.parameters, value.kind = field.type.valueKind := by
  obtain ⟨low, lowRead, success⟩ := bind_eq_ok_iff.mp success
  obtain ⟨high, highRead, made⟩ := bind_eq_ok_iff.mp success
  cases made
  have lowKind := kind_of_readEndpoint lowRead
  have highKind := kind_of_readEndpoint highRead
  intro value member
  rw [parameters_range, List.mem_append, Option.mem_toList, Option.mem_toList] at member
  rcases member with member | member
  · obtain ⟨literal, held, rfl⟩ := Option.map_eq_some_iff.mp member
    exact lowKind literal held
  · obtain ⟨literal, held, rfl⟩ := Option.map_eq_some_iff.mp member
    exact highKind literal held

theorem kind_of_readTerm {field : Field} {text : String} {query : Query}
    (success : field.readTerm text = .ok query) :
    ∀ value ∈ query.predicate.parameters, value.kind = field.type.valueKind := by
  unfold Field.readTerm at success
  have exactly (literal : Literal) (read : Literal.read field.type text = .ok literal) :
      ∀ value ∈ (exact field.name literal).predicate.parameters, value.kind = field.type.valueKind := by
    intro value member
    obtain rfl := List.mem_singleton.mp member
    exact kind_toSql_of_read read
  cases type : field.type with
  | text =>
    -- Analysed text is not read as a literal, and what is bound is the text of a regular expression.
    rw [type] at success
    obtain ⟨pattern, _, made⟩ := bind_eq_ok_iff.mp success
    cases made
    intro value member
    obtain rfl := List.mem_singleton.mp member
    rfl
  | string | int | long | float | double | date =>
    rw [type] at success exactly
    obtain ⟨literal, read, made⟩ := bind_eq_ok_iff.mp success
    cases made
    exact exactly literal read

/-! ## Both together -/

/-- The predicate of a query is cut at identifiers that are all closed and all name its column. Outside of
them it has a question mark for each parameter, and is the one text of the query's kind. If the query was
read for a field, then its parameters are of the kind that the field's type is stored as. -/
theorem predicate_structure (query : Query) :
    (∃ segments, segments? query.predicate.text.toList = some segments ∧
      (∀ name, .identifier name ∈ segments ↔ name = query.column.toList) ∧
      segments.countP Segment.isPlaceholder = query.predicate.parameters.length ∧
      segments.map Segment.masked = query.kind.template.toList) ∧
    ∀ field : Field,
      ((∃ settings lower upper lowerInclusive upperInclusive,
        field.readRange settings lower upper lowerInclusive upperInclusive = .ok query) ∨
      ∃ text, field.readTerm text = .ok query) →
      ∀ value ∈ query.predicate.parameters, value.kind = field.type.valueKind := by
  refine ⟨⟨_, Predicate.segments?_ofTests query.column query.tests, ?_, ?_, ?_⟩, ?_⟩
  · intro name
    obtain ⟨test, tests, shape⟩ := query.exists_tests_eq_cons
    rw [shape, Predicate.identifier_mem_segments_iff]
  · exact Predicate.countP_segments _ _
  · rw [Predicate.map_masked_segments, map_masked_tests]
    rfl
  · rintro field (⟨_, _, _, _, _, success⟩ | ⟨_, success⟩)
    · exact kind_of_readRange success
    · exact kind_of_readTerm success

/-- A name may hold quotes, question marks and pieces of conditions. -/
theorem predicate_structure_of_quoted :
    let field : Field := ⟨"a\"? AND \"b", .long, by decide, by decide⟩
    let query : Query := .range field.name (.excluded (.long 7)) .unbounded
    field.readRange {} (some " +7") none false true = .ok query ∧
      (∃ segments, segments? query.predicate.text.toList = some segments ∧
        (∀ name, .identifier name ∈ segments ↔ name = "a\"? AND \"b".toList) ∧
        segments.countP Segment.isPlaceholder = query.predicate.parameters.length ∧
        segments.map Segment.masked = "@ > ?".toList) ∧
      ∀ value ∈ query.predicate.parameters, value.kind = .bigint := by
  have success : Field.readRange ⟨"a\"? AND \"b", .long, by decide, by decide⟩ {} (some " +7") none
      false true = .ok (.range "a\"? AND \"b" (.excluded (.long 7)) .unbounded) := by decide
  have structured := predicate_structure (.range "a\"? AND \"b" (.excluded (.long 7)) .unbounded)
  exact ⟨success, structured.1, structured.2 _ (.inl ⟨_, _, _, _, _, success⟩)⟩

end Query

end FieldSearch
