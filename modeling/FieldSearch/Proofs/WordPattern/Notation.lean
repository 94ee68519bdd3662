import FieldSearch.Proofs.WordPattern.Reading

/-! # The notation of word patterns

There are six ways to write a pattern. A word or a phrase may stand between quotes, and then all in it but
its white space stands for itself. A phrase, the beginning of a word, a glob or a word may stand without
quotes, and then no quote stands at an end of it and its wildcards tell which one it is. What is read is
what is written in one of these ways, with any white space around it.
-/

namespace FieldSearch.WordPattern

open Text

/-- There is something of the text, and no quote at either end of it. -/
structure Unquoted (text : List Char) : Prop where
  nonempty : text ≠ []
  first : text.head? ≠ some '"'
  last : text.getLast? ≠ some '"'

/-- The text is not the beginning of a word with the only wildcard, a star, behind it. -/
def NoBeginning (text : List Char) : Prop :=
  ∀ stem, text = stem ++ ['*'] → stem ≠ [] → ¬ ∀ c ∈ stem, isWildcard c = false

/-- The ways in which a text without white space around it is written for a pattern. -/
inductive WrittenFor : List Char → WordPattern → Prop
  | quotedWord {inner word : List Char} : words inner = [word] →
      WrittenFor (['"'] ++ inner ++ ['"']) (.word (String.ofList word))
  | quotedPhrase {inner : List Char} : 2 ≤ (words inner).length →
      WrittenFor (['"'] ++ inner ++ ['"']) (.phrase ((words inner).map String.ofList))
  | phrase {text : List Char} : Unquoted text → (∃ c ∈ text, isBlank c = true) →
      WrittenFor text (.phrase ((words text).map String.ofList))
  | beginning {stem : List Char} : IsWord stem → stem.head? ≠ some '"' →
      (∀ c ∈ stem, isWildcard c = false) →
      WrittenFor (stem ++ ['*']) (.beginning (String.ofList stem))
  | glob {text : List Char} : Unquoted text → IsWord text → (∃ c ∈ text, isWildcard c = true) →
      NoBeginning text → WrittenFor text (.glob (String.ofList text))
  | word {text : List Char} : Unquoted text → IsWord text → (∀ c ∈ text, isWildcard c = false) →
      WrittenFor text (.word (String.ofList text))

variable {text inner : List Char} {pattern : WordPattern}

/-! ## Texts in quotes -/

theorem ofTrimmed_quoted (inner : List Char) :
    ofTrimmed (['"'] ++ inner ++ ['"']) = ofQuoted inner := by
  rw [ofTrimmed, if_neg (by simp), enclosed?_eq_some_iff.mpr rfl]

theorem ofQuoted_several (several : 2 ≤ (words inner).length) :
    ofQuoted inner = .ok (.phrase ((words inner).map String.ofList)) := by
  rw [ofQuoted]
  split
  · rename_i none
    simp [none] at several
  · rename_i only
    simp [only] at several
  · rfl

private theorem writtenFor_of_ofQuoted (success : ofQuoted inner = .ok pattern) :
    WrittenFor (['"'] ++ inner ++ ['"']) pattern := by
  unfold ofQuoted at success
  split at success
  · cases success
  · rename_i only
    cases success
    exact .quotedWord only
  · rename_i notNone notOne
    cases success
    refine .quotedPhrase ?_
    cases shape : words inner with
    | nil => exact absurd shape notNone
    | cons first others =>
      cases others with
      | nil => exact absurd shape (notOne first)
      | cons second others => simp

/-! ## Texts without quotes -/

theorem ofTrimmed_unquoted (unquoted : Unquoted text) : ofTrimmed text = .ok (ofPlain text) := by
  have notEnclosed : enclosed? text = none := by
    refine Option.eq_none_iff_forall_ne_some.mpr fun inner enclosed => unquoted.first ?_
    rw [enclosed?_eq_some_iff.mp enclosed]
    rfl
  rw [ofTrimmed, if_neg unquoted.nonempty, notEnclosed]
  exact if_neg (not_or_intro unquoted.first unquoted.last)

theorem stem?_eq_none_iff : stem? text = none ↔ NoBeginning text := by
  rw [Option.eq_none_iff_forall_ne_some]
  simp only [ne_eq, stem?_eq_some_iff, not_and, NoBeginning]

private theorem writtenFor_ofPlain (unquoted : Unquoted text) : WrittenFor text (ofPlain text) := by
  rw [ofPlain]
  split
  · rename_i blank
    exact .phrase unquoted (by simpa using blank)
  · rename_i unbroken
    have isWord : IsWord text := ⟨unquoted.nonempty, by simpa using unbroken⟩
    split
    · rename_i stem found
      obtain ⟨rfl, nonempty, plain⟩ := stem?_eq_some_iff.mp found
      refine .beginning ⟨nonempty, fun c member => isWord.2 c (by simp [member])⟩ ?_ plain
      have first := unquoted.first
      rwa [List.head?_append_of_ne_nil _ nonempty] at first
    · rename_i noStem
      split
      · rename_i wild
        exact .glob unquoted isWord (by simpa using wild) (stem?_eq_none_iff.mp noStem)
      · rename_i plain
        exact .word unquoted isWord (by simpa using plain)

private theorem any_isBlank_eq_false (isWord : IsWord text) : text.any isBlank = false := by
  simpa using isWord.2

private theorem ofPlain_of_noBeginning (isWord : IsWord text) (noBeginning : NoBeginning text) :
    ofPlain text = if text.any isWildcard then .glob (String.ofList text)
      else .word (String.ofList text) := by
  rw [ofPlain, any_isBlank_eq_false isWord, stem?_eq_none_iff.mpr noBeginning]
  rfl

theorem isWord_starred {stem : List Char} (isWord : IsWord stem) : IsWord (stem ++ ['*']) := by
  have star : isBlank '*' = false := by decide
  exact ⟨by simp, List.forall_mem_append.mpr ⟨isWord.2, List.forall_mem_singleton.mpr star⟩⟩

private theorem ofPlain_beginning {stem : List Char} (isWord : IsWord stem)
    (plain : ∀ c ∈ stem, isWildcard c = false) :
    ofPlain (stem ++ ['*']) = .beginning (String.ofList stem) := by
  have found : stem? (stem ++ ['*']) = some stem := stem?_eq_some_iff.mpr ⟨rfl, isWord.1, plain⟩
  rw [ofPlain, any_isBlank_eq_false (isWord_starred isWord), found]
  rfl

/-! ## Both together -/

/-- A text that is neither in quotes nor free of quotes at its ends is refused. -/
theorem quoted_or_unquoted_or_refused (text : List Char) :
    (∃ inner, text = ['"'] ++ inner ++ ['"']) ∨ Unquoted text ∨ ∃ reason, Refused text reason := by
  by_cases quoted : ∃ inner, text = ['"'] ++ inner ++ ['"']
  · exact .inl quoted
  by_cases empty : text = []
  · exact .inr (.inr ⟨.emptyText, empty ▸ .empty⟩)
  by_cases quote : text.head? = some '"' ∨ text.getLast? = some '"'
  · exact .inr (.inr ⟨.unbalancedQuote, .unbalanced ⟨quote, fun inner same => quoted ⟨inner, same⟩⟩⟩)
  · obtain ⟨first, last⟩ := not_or.mp quote
    exact .inr (.inl ⟨empty, first, last⟩)

theorem ofTrimmed_eq_ok_iff : ofTrimmed text = .ok pattern ↔ WrittenFor text pattern := by
  constructor
  · intro success
    rcases quoted_or_unquoted_or_refused text with ⟨inner, rfl⟩ | unquoted | ⟨reason, refused⟩
    · rw [ofTrimmed_quoted] at success
      exact writtenFor_of_ofQuoted success
    · rw [ofTrimmed_unquoted unquoted] at success
      cases success
      exact writtenFor_ofPlain unquoted
    · rw [ofTrimmed_eq_error_iff.mpr refused] at success
      cases success
  · intro written
    cases written with
    | quotedWord only => rw [ofTrimmed_quoted, ofQuoted, only]
    | quotedPhrase several => rw [ofTrimmed_quoted, ofQuoted_several several]
    | phrase unquoted blank =>
      rw [ofTrimmed_unquoted unquoted, ofPlain, if_pos (List.any_eq_true.mpr blank)]
    | @beginning stem isWord first plain =>
      have unquoted : Unquoted (stem ++ ['*']) :=
        ⟨by simp, by rwa [List.head?_append_of_ne_nil _ isWord.1], by simp⟩
      rw [ofTrimmed_unquoted unquoted, ofPlain_beginning isWord plain]
    | glob unquoted isWord wild noBeginning =>
      rw [ofTrimmed_unquoted unquoted, ofPlain_of_noBeginning isWord noBeginning,
        if_pos (List.any_eq_true.mpr wild)]
    | word unquoted isWord plain =>
      have noBeginning : NoBeginning text := by
        rintro stem rfl _ _
        exact absurd (plain '*' (by simp)) (by decide)
      rw [ofTrimmed_unquoted unquoted, ofPlain_of_noBeginning isWord noBeginning,
        if_neg (by simpa using plain)]

/-- What is read is what is written in one of the six ways. -/
theorem read_eq_ok_iff {text : String} :
    read text = .ok pattern ↔ WrittenFor (trim text.toList) pattern := by
  rw [← ofTrimmed_eq_ok_iff, read]
  split
  · rename_i made
    simp [made]
  · rename_i refused
    simp [refused]

end FieldSearch.WordPattern
