import FieldSearch.Proofs.Query.Equality
import FieldSearch.Proofs.Query.Sides

/-! # Queries that are equal to themselves

Numbers are compared as numbers, so a query with NaN in it is not even equal to itself. All others are, and
two of them are equal exactly if they agree once minus zero is written as zero. No literal is read as NaN,
however it is spelled, so on the queries that are read from texts equality is an equivalence, and it is kept
by their predicates.
-/

namespace FieldSearch

/-! ## Literals and the ends of ranges -/

namespace Literal

/-- The literal is NaN. -/
def isNaN : Literal → Bool
  | .float value => value.isNaN
  | .double value => value.isNaN
  | .text _ | .int _ | .long _ | .instant _ => false

/-- The literal with zero in place of minus zero. -/
def normal : Literal → Literal
  | .float value => .float value.normal
  | .double value => .double value.normal
  | literal => literal

theorem same_iff {a b : Literal} :
    a.same b = true ↔ a.isNaN = false ∧ b.isNaN = false ∧ a.normal = b.normal := by
  cases a <;> cases b <;> simp [same, isNaN, normal, Number.Binary.same_iff]

theorem isNaN_eq_false_of_read {type : Datatype} {text : String} {literal : Literal}
    (success : read type text = .ok literal) : literal.isNaN = false := by
  have parsed := read_eq_ok_iff.mp success
  cases type with
  | text =>
    rw [ofText] at parsed
    split at parsed
    · cases parsed
    · cases parsed
      rfl
  | string =>
    cases parsed
    rfl
  | int | long | date =>
    obtain ⟨_, _, made⟩ := bind_eq_ok_iff.mp parsed
    cases made
    rfl
  | float | double =>
    obtain ⟨value, read, made⟩ := bind_eq_ok_iff.mp parsed
    cases made
    exact Number.Binary.isNaN_eq_false_of_read read

end Literal

namespace Endpoint

/-- The value at the end is not NaN, if there is one. -/
def Ordered (endpoint : Endpoint Literal) : Prop :=
  ∀ value ∈ endpoint.value?, value.isNaN = false

/-- The end with zero in place of minus zero. -/
def normal : Endpoint Literal → Endpoint Literal
  | .included value => .included value.normal
  | .excluded value => .excluded value.normal
  | .unbounded => .unbounded

theorem same_iff {endpoint other : Endpoint Literal} :
    endpoint.same other = true ↔
      endpoint.Ordered ∧ other.Ordered ∧ endpoint.normal = other.normal := by
  cases endpoint <;> cases other <;> simp [same, Ordered, value?, normal, Literal.same_iff]

/-- An end that comes of a text holds the literal that the text is read as, or nothing. -/
theorem ordered_of_side {type : Datatype} {openMark : String} {text : Option String}
    {inclusive : Bool} {endpoint : Endpoint Literal}
    (side : SideOutcome (fun text result => Literal.read type text = result) openMark text inclusive
      (.ok endpoint)) : endpoint.Ordered := by
  cases side with
  | leftOpen _ => simp [Ordered, value?]
  | included _ read | excluded _ read =>
    have ordered := Literal.isNaN_eq_false_of_read read
    simpa [Ordered, value?] using ordered

end Endpoint

/-! ## Queries -/

namespace Query

/-- The query was read for a field: as a range between two texts or two ends, or as a term. -/
inductive IsRead : Query → Prop
  | range {field : Field} {settings : Settings} {lower upper : Option String}
      {lowerInclusive upperInclusive : Bool} {query : Query} :
      field.readRange settings lower upper lowerInclusive upperInclusive = .ok query → IsRead query
  | between {field : Field} {lower upper : Endpoint String} {query : Query} :
      field.readRangeBetween lower upper = .ok query → IsRead query
  | term {field : Field} {text : String} {query : Query} :
      field.readTerm text = .ok query → IsRead query

/-- The values that the query asks for. -/
def values : Query → List Literal
  | .exact _ value => [value]
  | .range _ lower upper => lower.value?.toList ++ upper.value?.toList
  | .words _ _ => []

/-- None of the values is NaN. -/
def Ordered (query : Query) : Prop :=
  ∀ value ∈ query.values, value.isNaN = false

/-- The query with zero in place of minus zero. -/
def normal : Query → Query
  | .exact column value => .exact column value.normal
  | .range column lower upper => .range column lower.normal upper.normal
  | .words column pattern => .words column pattern

private theorem ordered_range_iff {column : String} {lower upper : Endpoint Literal} :
    (range column lower upper).Ordered ↔ lower.Ordered ∧ upper.Ordered := by
  simp only [Ordered, values, List.forall_mem_append, Option.mem_toList]
  rfl

/-- Queries are equal exactly if none of their values is NaN and they agree up to the sign of zero. -/
theorem same_iff {query other : Query} :
    query.same other = true ↔ query.Ordered ∧ other.Ordered ∧ query.normal = other.normal := by
  cases query <;> cases other
  case exact.exact => simp [same, normal, Ordered, values, Literal.same_iff, and_left_comm]
  case range.range =>
    simp only [same, normal, ordered_range_iff, Endpoint.same_iff, Bool.and_eq_true, beq_iff_eq,
      range.injEq]
    tauto
  case words.words => simp [same, normal, Ordered, values]
  -- Queries of two kinds are not equal, and do not agree either.
  all_goals simp [same, normal]

theorem same_self_iff {query : Query} : query.same query = true ↔ query.Ordered := by
  rw [same_iff]
  exact ⟨fun same => same.1, fun ordered => ⟨ordered, ordered, rfl⟩⟩

theorem ordered_of_readRange {type : Datatype} {settings : Settings} {column : String}
    {lower upper : Option String} {lowerInclusive upperInclusive : Bool} {query : Query}
    (success : type.readRange settings column lower upper lowerInclusive upperInclusive = .ok query) :
    query.Ordered := by
  cases (Datatype.readRange_eq_iff fun _ _ => Iff.rfl).mp success with
  | range low high =>
    apply ordered_range_iff.mpr
    exact ⟨Endpoint.ordered_of_side low, Endpoint.ordered_of_side high⟩

theorem ordered_of_readTerm {type : Datatype} {column text : String} {query : Query}
    (success : type.readTerm column text = .ok query) : query.Ordered := by
  by_cases analysed : type = .text
  · subst analysed
    obtain ⟨pattern, _, made⟩ := bind_eq_ok_iff.mp success
    cases made
    simp [Ordered, values]
  · rw [Datatype.readTerm_eq analysed] at success
    cases read : Literal.read type text with
    | error fault =>
      rw [read] at success
      cases success
    | ok value =>
      rw [read] at success
      cases success
      exact List.forall_mem_singleton.mpr (Literal.isNaN_eq_false_of_read read)

theorem IsRead.ordered {query : Query} (read : query.IsRead) : query.Ordered := by
  cases read with
  | range success => exact ordered_of_readRange success
  | between success => exact ordered_of_readRange success
  | term success => exact ordered_of_readTerm success

/-- A query is equal to itself exactly if none of its values is NaN, and no value of a query that was read
for a field is, however the texts are spelled. So equality is an equivalence on the queries that were read,
and equal ones have equal predicates. -/
theorem same_equivalence_of_isRead :
    (∀ query : Query, query.same query = true ↔ query.Ordered) ∧
    (∀ query : Query, query.IsRead → query.Ordered ∧ query.same query = true ∧
      query.predicate.same query.predicate = true) ∧
    Equivalence (fun a b : {query : Query // query.IsRead} => a.1.same b.1 = true) ∧
    ∀ a b : {query : Query // query.IsRead}, a.1.same b.1 = true →
      a.1.predicate.same b.1.predicate = true := by
  have itself {query : Query} (read : query.IsRead) : query.same query = true :=
    same_self_iff.mpr read.ordered
  refine ⟨fun _ => same_self_iff, ?_, ?_, ?_⟩
  · intro query read
    exact ⟨read.ordered, itself read, (alike_of_same (itself read)).predicate_same⟩
  · constructor
    · intro query
      exact itself query.2
    · intro a b same
      obtain ⟨ordered, otherOrdered, agree⟩ := same_iff.mp same
      exact same_iff.mpr ⟨otherOrdered, ordered, agree.symm⟩
    · intro a b c first second
      obtain ⟨ordered, _, agree⟩ := same_iff.mp first
      obtain ⟨_, otherOrdered, agreeAgain⟩ := same_iff.mp second
      exact same_iff.mpr ⟨ordered, otherOrdered, agree.trans agreeAgain⟩
  · intro a b same
    exact (alike_of_same same).predicate_same

/-- Zero and infinity in two spellings each make two queries that are equal, though not the same. NaN is
refused. -/
theorem same_of_spellings :
    let field : Field := ⟨"x", .double, by decide, by decide⟩
    let zero : Query := .range "x" (.included (.double (.ofBits 0)))
      (.excluded (.double (.ofBits 0x7ff0000000000000)))
    let minusZero : Query := .range "x" (.included (.double (.ofBits 0x8000000000000000)))
      (.excluded (.double (.ofBits 0x7ff0000000000000)))
    field.readRange {} (some "0e7") (some "Infinity ") true false = .ok zero ∧
    field.readRange {} (some " -0.0") (some "+INF") true false = .ok minusZero ∧
    field.readTerm " -nAn" = .error (.invalidLiteral .double " -nAn" .unordered) ∧
    minusZero ≠ zero ∧ minusZero.same minusZero = true ∧
    minusZero.predicate.same minusZero.predicate = true ∧ minusZero.same zero = true ∧
    zero.same minusZero = true ∧ minusZero.predicate.same zero.predicate = true := by
  intro field zero minusZero
  have zeroRead : field.readRange {} (some "0e7") (some "Infinity ") true false = .ok zero := by
    decide
  have minusZeroRead : field.readRange {} (some " -0.0") (some "+INF") true false =
      .ok minusZero := by decide
  have itself := (same_equivalence_of_isRead.2.1 minusZero (.range minusZeroRead)).2
  have equal : minusZero.same zero = true := by decide
  have turned := same_equivalence_of_isRead.2.2.1.symm
    (x := ⟨minusZero, .range minusZeroRead⟩) (y := ⟨zero, .range zeroRead⟩) equal
  have predicates := same_equivalence_of_isRead.2.2.2
    ⟨minusZero, .range minusZeroRead⟩ ⟨zero, .range zeroRead⟩ equal
  exact ⟨zeroRead, minusZeroRead, by decide, by decide, itself.1, itself.2, equal, turned, predicates⟩

end Query

end FieldSearch
