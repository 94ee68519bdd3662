import FieldSearch.Proofs.Sql.Identifier

/-! # Texts cut at their identifiers

What a database sees of a condition or a clause is its quoted identifiers and the characters outside of
them. A quote outside of all identifiers opens one, which ends as `unquote?` says. Nothing is promised
about what the characters mean, so two texts that are cut alike are alike in any dialect.
-/

namespace FieldSearch.Sql

open Text

/-- A part of a text. -/
inductive Segment where
  /-- A quoted identifier, by the name that it stands for. -/
  | identifier (name : List Char)
  /-- A character outside of all identifiers. -/
  | bare (c : Char)
deriving DecidableEq

theorem length_lt_of_unquote? {text name rest : List Char}
    (closed : unquote? text = some (name, rest)) : rest.length < text.length := by
  obtain ⟨rfl, _⟩ := eq_doubleQuotes_of_unquote? closed
  rw [List.length_append, List.length_cons]
  omega

/-- Cut a text at its identifiers. There is no cut if one of them is still open at the end. -/
def segments? (text : List Char) : Option (List Segment) :=
  match text with
  | [] => some []
  | c :: rest =>
    if c = '"' then
      match _ : unquote? rest with
      | none => none
      | some (name, behind) => (segments? behind).map (.identifier name :: ·)
    else (segments? rest).map (.bare c :: ·)
termination_by text.length
decreasing_by
  · have shorter := length_lt_of_unquote? ‹_›
    simp only [List.length_cons]
    omega
  · simp

theorem segments?_bare {c : Char} (outside : c ≠ '"') (rest : List Char) :
    segments? (c :: rest) = (segments? rest).map (.bare c :: ·) := by
  rw [segments?, if_neg outside]

/-- Characters other than quotes stand for themselves. -/
theorem segments?_append {front rest : List Char} {segments : List Segment} (outside : '"' ∉ front)
    (cut : segments? rest = some segments) :
    segments? (front ++ rest) = some (front.map .bare ++ segments) := by
  induction front with
  | nil => exact cut
  | cons c front ih =>
    obtain ⟨first, others⟩ := List.ne_and_not_mem_of_not_mem_cons outside
    rw [List.cons_append, segments?_bare (Ne.symm first), ih others]
    rfl

/-- A quoted name is cut out whole in front of anything but a further quote. -/
theorem segments?_quote (name : String) {rest : List Char} {segments : List Segment}
    (apart : rest.head? ≠ some '"') (cut : segments? rest = some segments) :
    segments? ((quote name).toList ++ rest) = some (.identifier name.toList :: segments) := by
  have closed : unquote? (doubleQuotes name.toList ++ '"' :: rest) = some (name.toList, rest) :=
    unquote?_doubleQuotes _ apart
  rw [toList_quote, List.cons_append, List.append_assoc, List.singleton_append, segments?, if_pos rfl]
  split
  · rename_i opened
    rw [closed] at opened
    cases opened
  · rename_i unquoted
    rw [closed] at unquoted
    cases unquoted
    rw [cut]
    rfl

/-- A name between two pieces of plain text. -/
theorem segments?_framed (name : String) {front back rest : List Char} {segments : List Segment}
    (before : '"' ∉ front) (behind : '"' ∉ back) (apart : back ≠ [])
    (cut : segments? rest = some segments) :
    segments? (front ++ ((quote name).toList ++ (back ++ rest))) =
      some (front.map .bare ++ .identifier name.toList :: (back.map .bare ++ segments)) := by
  refine segments?_append before (segments?_quote name ?_ (segments?_append behind cut))
  obtain ⟨c, others, rfl⟩ := List.exists_cons_of_ne_nil apart
  intro quoted
  exact behind (Option.some_inj.mp quoted ▸ List.mem_cons_self)

/-- The first identifier of a text stands in one place only. -/
theorem bare_append_identifier_inj {front other name more : List Char} {rest tail : List Segment}
    (same : front.map .bare ++ .identifier name :: rest = other.map .bare ++ .identifier more :: tail) :
    front = other ∧ name = more ∧ rest = tail := by
  induction front generalizing other with
  | nil =>
    cases other with
    | nil => simpa using same
    | cons d other => cases same
  | cons c front ih =>
    cases other with
    | nil => cases same
    | cons d other =>
      obtain ⟨first, others⟩ := List.cons.inj same
      obtain ⟨rfl, named⟩ := ih others
      exact ⟨by rw [Segment.bare.inj first], named⟩

end FieldSearch.Sql
