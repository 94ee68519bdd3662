import FieldSearch.Proofs.Text.Words
import FieldSearch.WordPattern.Basic
import Mathlib.Data.List.Basic

/-! # When a word pattern can be read

Without the white space around it, a text is refused for one of three reasons: nothing is left of it,
there is nothing but white space between its quotes, or a quote at one of its ends has no other to
enclose the text with. All else is a pattern.
-/

namespace FieldSearch.WordPattern

open Text

/-- The text between two quotes that enclose it. -/
theorem enclosed?_eq_some_iff {text inner : List Char} :
    enclosed? text = some inner ↔ text = ['"'] ++ inner ++ ['"'] := by
  constructor
  · intro enclosed
    unfold enclosed? at enclosed
    split at enclosed
    · rename_i rest
      split at enclosed
      · rename_i last
        cases enclosed
        rw [List.append_assoc, List.dropLast_append_getLast? _ last]
        rfl
      · cases enclosed
    · cases enclosed
  · rintro rfl
    simp [enclosed?]

/-- A text that is the beginning of a word and a star behind it, the only wildcard. -/
theorem stem?_eq_some_iff {text stem : List Char} : stem? text = some stem ↔
    text = stem ++ ['*'] ∧ stem ≠ [] ∧ ∀ c ∈ stem, isWildcard c = false := by
  unfold stem?
  constructor
  · intro found
    split at found
    · rename_i star
      cases found
      exact ⟨(List.dropLast_append_getLast? _ star.1).symm, star.2.1, by simpa using star.2.2⟩
    · cases found
  · rintro ⟨rfl, nonempty, plain⟩
    simpa [nonempty] using plain

/-- A quote stands at one end of the text, but no two of them enclose it. -/
def QuoteUnbalanced (text : List Char) : Prop :=
  (text.head? = some '"' ∨ text.getLast? = some '"') ∧ ∀ inner, text ≠ ['"'] ++ inner ++ ['"']

/-- Two quotes enclose nothing but white space. -/
def QuotesBlank (text : List Char) : Prop :=
  ∃ inner, text = ['"'] ++ inner ++ ['"'] ∧ ∀ c ∈ inner, isBlank c = true

/-- Why a text without white space around it is no pattern. -/
inductive Refused : List Char → LiteralFault → Prop
  | empty : Refused [] .emptyText
  | blank {text : List Char} : QuotesBlank text → Refused text .emptyPhrase
  | unbalanced {text : List Char} : QuoteUnbalanced text → Refused text .unbalancedQuote

theorem ofQuoted_eq_error_iff {inner : List Char} {reason : LiteralFault} :
    ofQuoted inner = .error reason ↔ (∀ c ∈ inner, isBlank c = true) ∧ reason = .emptyPhrase := by
  rw [← words_eq_nil_iff, ofQuoted]
  split
  · rename_i none
    simp [none, eq_comm]
  · rename_i only
    simp [only]
  · rename_i several _
    simp [show words inner ≠ [] from several]

theorem ofTrimmed_eq_error_iff {text : List Char} {reason : LiteralFault} :
    ofTrimmed text = .error reason ↔ Refused text reason := by
  unfold ofTrimmed
  constructor
  · intro failure
    split at failure
    · rename_i empty
      cases failure
      exact empty ▸ .empty
    split at failure
    · rename_i inner enclosed
      obtain ⟨blank, rfl⟩ := ofQuoted_eq_error_iff.mp failure
      exact .blank ⟨inner, enclosed?_eq_some_iff.mp enclosed, blank⟩
    · rename_i notEnclosed
      split at failure
      · rename_i quote
        cases failure
        refine .unbalanced ⟨quote, fun inner enclosed => ?_⟩
        rw [enclosed?_eq_some_iff.mpr enclosed] at notEnclosed
        cases notEnclosed
      · cases failure
  · intro refused
    cases refused with
    | empty => rfl
    | blank blank =>
      obtain ⟨inner, rfl, blank⟩ := blank
      rw [if_neg (by simp), enclosed?_eq_some_iff.mpr rfl]
      exact ofQuoted_eq_error_iff.mpr ⟨blank, rfl⟩
    | unbalanced unbalanced =>
      obtain ⟨quote, single⟩ := unbalanced
      have nonempty : text ≠ [] := by
        rintro rfl
        simp at quote
      have notEnclosed : enclosed? text = none :=
        Option.eq_none_iff_forall_ne_some.mpr fun inner enclosed =>
          single inner (enclosed?_eq_some_iff.mp enclosed)
      rw [if_neg nonempty, notEnclosed]
      exact if_pos quote

/-- A text is refused as it was given, for what is the matter with it without the white space around. -/
theorem read_eq_error_iff {text : String} {fault : Fault} : read text = .error fault ↔
    ∃ reason, Refused (trim text.toList) reason ∧ fault = .invalidLiteral .text text reason := by
  simp only [← ofTrimmed_eq_error_iff]
  rw [read]
  split
  · rename_i made
    simp [made]
  · rename_i refused
    simp [refused, eq_comm]

end FieldSearch.WordPattern
