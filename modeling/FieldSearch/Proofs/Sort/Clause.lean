import FieldSearch.Proofs.Sql.Segments
import FieldSearch.Sort
import Mathlib.Data.List.Forall2

/-! # What a sort clause says

Cut at its identifiers, the clause of some keys falls into the terms of each of them in one way only: a
term ends where its direction does, and no name can reach out of its quotes. So two lists of keys have the
same clause exactly if they sort alike, key by key. Analysed text sorts as a string does, and this is
all that a clause does not tell.
-/

namespace FieldSearch

open Sql

/-- The datatype by whose values a field sorts. Analysed text sorts as a string does. -/
def Datatype.sorted : Datatype → Datatype
  | .text => .string
  | type => type

/-- The targets are of one kind, and fields have the same name and sort by the same datatype. -/
inductive SortTarget.Alike : SortTarget → SortTarget → Prop
  | score : Alike .score .score
  | document : Alike .document .document
  | values {field other : Field} : field.name = other.name →
      field.type.sorted = other.type.sorted → Alike (.values field) (.values other)

/-- The keys sort alike and in the same direction. -/
structure SortKey.Alike (key other : SortKey) : Prop where
  target : key.target.Alike other.target
  reversed : key.reversed = other.reversed

namespace Datatype

/-- The text in front of the column that is sorted by its values of a datatype. -/
def beforeColumn : Datatype → String
  | .date => "epoch_ms(TRY_CAST("
  | _ => "TRY_CAST("

/-- The text behind the column that is sorted by its values of a datatype. -/
def behindColumn : Datatype → String
  | .text | .string => " AS VARCHAR)"
  | .int => " AS INTEGER)"
  | .long => " AS BIGINT)"
  | .float => " AS FLOAT)"
  | .double => " AS DOUBLE)"
  | .date => " AS TIMESTAMP))"

private theorem quote_notMem_beforeColumn (type : Datatype) : '"' ∉ type.beforeColumn.toList := by
  cases type <;> simp [beforeColumn]

private theorem quote_notMem_behindColumn (type : Datatype) : '"' ∉ type.behindColumn.toList := by
  cases type <;> simp [behindColumn]

private theorem behindColumn_ne_nil (type : Datatype) : type.behindColumn.toList ≠ [] := by
  cases type <;> simp [behindColumn]

/-- The text in front of a column begins as no other target does. -/
private theorem exists_head_beforeColumn (type : Datatype) :
    ∃ c rest, type.beforeColumn.toList = c :: rest ∧ c ≠ 'r' := by
  cases type <;> simp [beforeColumn]

/-- The datatype that a value is cast to is over before anything that follows it. -/
private theorem behindColumn_append_inj {type other : Datatype} {rest more : List Segment}
    (same : type.behindColumn.toList.map .bare ++ rest = other.behindColumn.toList.map .bare ++ more) :
    type.sorted = other.sorted ∧ rest = more := by
  cases type <;> cases other <;> simp_all [behindColumn, sorted]

end Datatype

/-! ## Targets -/

namespace SortTarget

/-- The segments of a target's expression. -/
def segments : SortTarget → List Segment
  | .score => [.identifier "score".toList]
  | .document => "rowid".toList.map .bare
  | .values field => field.type.beforeColumn.toList.map .bare ++
      .identifier field.name.toList :: field.type.behindColumn.toList.map .bare

private theorem toList_expression_values (field : Field) :
    (values field).expression.toList = field.type.beforeColumn.toList ++
      ((Sql.quote field.name).toList ++ field.type.behindColumn.toList) := by
  cases type : field.type <;>
    simp [expression, type, Datatype.beforeColumn, Datatype.behindColumn, ToString.toString]

theorem segments?_expression (target : SortTarget) {rest : List Char} {others : List Segment}
    (apart : rest.head? ≠ some '"') (cut : segments? rest = some others) :
    segments? (target.expression.toList ++ rest) = some (target.segments ++ others) := by
  cases target with
  | score => exact segments?_quote "score" apart cut
  | document =>
    have plain : '"' ∉ "rowid".toList := by decide
    exact segments?_append plain cut
  | values field =>
    have framed := segments?_framed field.name field.type.quote_notMem_beforeColumn
      field.type.quote_notMem_behindColumn field.type.behindColumn_ne_nil cut
    simpa [toList_expression_values, segments] using framed

/-- An expression is over before anything that follows it. -/
theorem segments_append_inj {target other : SortTarget} {rest more : List Segment}
    (same : target.segments ++ rest = other.segments ++ more) :
    target.Alike other ∧ rest = more := by
  have rowid : "rowid".toList = ['r', 'o', 'w', 'i', 'd'] := by decide
  cases target with
  | score =>
    cases other with
    | score => exact ⟨.score, (List.cons.inj same).2⟩
    | document => simp [segments, rowid] at same
    | values field =>
      obtain ⟨c, front, shape, _⟩ := field.type.exists_head_beforeColumn
      simp [segments, shape] at same
  | document =>
    cases other with
    | score => simp [segments, rowid] at same
    | document => exact ⟨.document, List.append_cancel_left same⟩
    | values field =>
      obtain ⟨c, front, shape, differs⟩ := field.type.exists_head_beforeColumn
      simp [segments, shape, rowid, Ne.symm differs] at same
  | values field =>
    cases other with
    | score =>
      obtain ⟨c, front, shape, _⟩ := field.type.exists_head_beforeColumn
      simp [segments, shape] at same
    | document =>
      obtain ⟨c, front, shape, differs⟩ := field.type.exists_head_beforeColumn
      simp [segments, shape, rowid, differs] at same
    | values otherField =>
      simp only [segments, List.append_assoc, List.cons_append] at same
      obtain ⟨_, named, behind⟩ := bare_append_identifier_inj same
      obtain ⟨typed, same⟩ := Datatype.behindColumn_append_inj behind
      exact ⟨.values (String.toList_inj.mp named) typed, same⟩

/-- Targets that sort alike have one expression. -/
theorem Alike.expression_eq {target other : SortTarget} (alike : target.Alike other) :
    target.expression = other.expression := by
  cases alike with
  | score => rfl
  | document => rfl
  | @values field other named typed =>
    rw [expression, expression, named]
    cases first : field.type <;> cases second : other.type <;>
      simp_all [Datatype.sorted]

end SortTarget

/-! ## Keys -/

namespace SortKey

/-- The end of a term, behind the expression that is sorted by. -/
def ending (key : SortKey) : String :=
  match key.target, key.reversed with
  | .score, true => " ASC"
  | .score, false => " DESC"
  | .document, true => " DESC"
  | .document, false => " ASC"
  | .values _, true => " DESC NULLS LAST"
  | .values _, false => " ASC NULLS LAST"

/-- The segments of a term. -/
def segments (key : SortKey) : List Segment :=
  key.target.segments ++ key.ending.toList.map .bare

private theorem exists_cons_ending (key : SortKey) :
    ∃ rest, key.ending.toList = ' ' :: rest ∧ '"' ∉ key.ending.toList := by
  obtain ⟨target, reversed⟩ := key
  cases target <;> cases reversed <;> simp [ending]

private theorem toList_term (key : SortKey) :
    key.term.toList = key.target.expression.toList ++ key.ending.toList := by
  obtain ⟨target, reversed⟩ := key
  cases target <;> cases reversed <;> simp [term, ending, ToString.toString]

/-- A term is cut into its segments, whatever follows it. -/
theorem segments?_term (key : SortKey) {rest : List Char} {others : List Segment}
    (cut : segments? rest = some others) :
    segments? (key.term.toList ++ rest) = some (key.segments ++ others) := by
  obtain ⟨more, shape, plain⟩ := key.exists_cons_ending
  have apart : (key.ending.toList ++ rest).head? ≠ some '"' := by simp [shape]
  rw [toList_term, segments, List.append_assoc, List.append_assoc]
  exact key.target.segments?_expression apart (segments?_append plain cut)

/-- The direction of a term is over before anything that follows it. -/
private theorem ending_append_inj {key other : SortKey} {rest more : List Segment}
    (alike : key.target.Alike other.target)
    (same : key.ending.toList.map .bare ++ rest = other.ending.toList.map .bare ++ more) :
    key.reversed = other.reversed ∧ rest = more := by
  obtain ⟨target, reversed⟩ := key
  obtain ⟨otherTarget, otherReversed⟩ := other
  cases alike <;> cases reversed <;> cases otherReversed <;> simp_all [ending]

/-- A term is over before anything that follows it. -/
theorem segments_append_inj {key other : SortKey} {rest more : List Segment}
    (same : key.segments ++ rest = other.segments ++ more) : key.Alike other ∧ rest = more := by
  rw [segments, segments, List.append_assoc, List.append_assoc] at same
  obtain ⟨target, same⟩ := SortTarget.segments_append_inj same
  obtain ⟨reversed, same⟩ := ending_append_inj target same
  exact ⟨⟨target, reversed⟩, same⟩

/-- Keys that sort alike have one term. -/
theorem Alike.term_eq {key other : SortKey} (alike : key.Alike other) : key.term = other.term := by
  have ending : key.ending = other.ending := by
    obtain ⟨target, reversed⟩ := key
    obtain ⟨otherTarget, otherReversed⟩ := other
    obtain ⟨target, rfl⟩ := alike
    cases target <;> cases reversed <;> rfl
  rw [← String.toList_inj, toList_term, toList_term, alike.target.expression_eq, ending]

/-! ## Clauses -/

/-- The text of the keys behind the first one. -/
private def followers (keys : List SortKey) : List Char :=
  keys.flatMap fun key => ',' :: ' ' :: key.term.toList

/-- The segments of the keys behind the first one. -/
private def followerSegments (keys : List SortKey) : List Segment :=
  keys.flatMap fun key => .bare ',' :: .bare ' ' :: key.segments

private theorem intercalate_terms (key : SortKey) (keys : List SortKey) :
    ", ".toList.intercalate ((key :: keys).map fun key => key.term.toList) =
      key.term.toList ++ followers keys := by
  have comma : ", ".toList = [',', ' '] := by decide
  induction keys generalizing key with
  | nil => simp [followers]
  | cons next keys ih =>
    have later := ih next
    rw [List.map_cons] at later
    rw [List.map_cons, List.map_cons, List.intercalate_cons_cons, later, comma]
    simp [followers]

private theorem toList_orderBy (key : SortKey) (keys : List SortKey) :
    (orderBy (key :: keys)).toList =
      "ORDER BY ".toList ++ (key.term.toList ++ followers keys) := by
  have terms : ((key :: keys).map term).map String.toList =
      (key :: keys).map fun key => key.term.toList := List.map_map
  rw [← intercalate_terms, ← terms, ← String.toList_intercalate, ← String.toList_append]
  rfl

private theorem segments?_followers (keys : List SortKey) :
    segments? (followers keys) = some (followerSegments keys) := by
  induction keys with
  | nil => exact segments?.eq_1
  | cons key keys ih =>
    have plain : '"' ∉ [',', ' '] := by decide
    have cut := segments?_append plain (key.segments?_term ih)
    simpa [followers, followerSegments] using cut

/-- A clause is cut into the terms of its keys. -/
theorem segments?_orderBy (key : SortKey) (keys : List SortKey) :
    segments? (orderBy (key :: keys)).toList =
      some ("ORDER BY ".toList.map .bare ++ (key.segments ++ followerSegments keys)) := by
  have plain : '"' ∉ "ORDER BY ".toList := by decide
  rw [toList_orderBy]
  exact segments?_append plain (key.segments?_term (segments?_followers keys))

private theorem alike_of_followerSegments {keys others : List SortKey}
    (same : followerSegments keys = followerSegments others) : List.Forall₂ Alike keys others := by
  induction keys generalizing others with
  | nil =>
    cases others with
    | nil => exact .nil
    | cons other others => cases same
  | cons key keys ih =>
    cases others with
    | nil => cases same
    | cons other others =>
      obtain ⟨alike, same⟩ := segments_append_inj (List.cons.inj (List.cons.inj same).2).2
      exact .cons alike (ih same)

/-- Two lists of keys have one clause exactly if their keys sort alike, one by one. Whatever the names of
fields are, no clause can be read as that of other keys. -/
theorem orderBy_eq_iff (keys others : List SortKey) :
    orderBy keys = orderBy others ↔ List.Forall₂ Alike keys others := by
  constructor
  · intro same
    cases keys with
    | nil =>
      cases others with
      | nil => exact .nil
      | cons other others => simp [orderBy, ← String.toList_inj] at same
    | cons key keys =>
      cases others with
      | nil => simp [orderBy, ← String.toList_inj] at same
      | cons other others =>
        -- Equal clauses are cut alike, and the terms come apart from the first one on.
        have cut := segments?_orderBy key keys
        rw [same, segments?_orderBy, Option.some_inj] at cut
        obtain ⟨alike, followers⟩ := segments_append_inj (List.append_cancel_left cut).symm
        exact .cons alike (alike_of_followerSegments followers)
  · intro alike
    have terms : keys.map term = others.map term := by
      rw [← List.forall₂_eq_eq_eq, List.forall₂_map_left_iff, List.forall₂_map_right_iff]
      exact alike.imp fun _ _ => Alike.term_eq
    cases alike with
    | nil => rfl
    | cons _ _ => exact congrArg ("ORDER BY " ++ ", ".intercalate ·) terms

end SortKey

end FieldSearch
