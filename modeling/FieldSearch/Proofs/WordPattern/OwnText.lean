import FieldSearch.Proofs.Text.Trim
import FieldSearch.Proofs.WordPattern.Notation
import FieldSearch.Proofs.WordPattern.Occurrence

/-! # Patterns in the texts they were written as

A word, a phrase or the beginning of a word occurs in the very text that it was read from. Around it
stand only white space and the marks of the notation, none of which is part of a word, and the words
of a phrase are apart there as they are in the pattern. A glob need not occur in its own text, since
a wildcard is no word character.
-/

namespace FieldSearch

open Text Regex

namespace WordPattern

/-- There is nothing of a word in the text. -/
def Wordless (text : List Char) : Prop :=
  ∀ c ∈ text, isWordChar c = false

/-- What the pattern stands for makes up the text, but for what is no part of a word on either side. -/
def StandsIn (pattern : WordPattern) (text : List Char) : Prop :=
  ∃ before middle after, text = before ++ middle ++ after ∧ Wordless before ∧ pattern.Fits middle ∧
    Wordless after

/-! ## Boundaries -/

theorem wordless_nil : Wordless [] :=
  fun _ member => absurd member List.not_mem_nil

/-- The marks of the notation are no part of a word. -/
theorem wordless_mark {c : Char} (low : c.toNat < '0'.toNat) : Wordless [c] :=
  List.forall_mem_singleton.mpr (isWordChar_eq_false_of_lt low)

theorem Wordless.of_blank {text : List Char} (blank : ∀ c ∈ text, isBlank c = true) :
    Wordless text :=
  fun c member => isWordChar_eq_false_of_isBlank (blank c member)

theorem Wordless.append {front back : List Char} (before : Wordless front) (behind : Wordless back) :
    Wordless (front ++ back) :=
  List.forall_mem_append.mpr ⟨before, behind⟩

theorem Wordless.endsOutsideWord {text : List Char} (wordless : Wordless text) :
    EndsOutsideWord text := by
  rcases List.eq_nil_or_concat text with rfl | ⟨front, c, rfl⟩
  · exact .inl rfl
  · exact .inr ⟨front, c, List.concat_eq_append, wordless c (by simp)⟩

theorem Wordless.startsOutsideWord {text : List Char} (wordless : Wordless text) :
    StartsOutsideWord text := by
  cases text with
  | nil => exact .inl rfl
  | cons c rest => exact .inr ⟨c, rest, rfl, wordless c List.mem_cons_self⟩

variable {pattern : WordPattern} {text : List Char}

theorem StandsIn.occurs (stands : pattern.StandsIn text) : pattern.Occurs text := by
  obtain ⟨before, middle, after, split, outside, fits, behind⟩ := stands
  exact ⟨before, middle, after, split, outside.endsOutsideWord, fits,
    .inr behind.startsOutsideWord⟩

/-- More may stand around the text, as long as it is no part of a word. -/
theorem StandsIn.surround {front back : List Char} (stands : pattern.StandsIn text)
    (before : Wordless front) (behind : Wordless back) :
    pattern.StandsIn (front ++ text ++ back) := by
  obtain ⟨inside, middle, after, rfl, outside, fits, later⟩ := stands
  exact ⟨front ++ inside, middle, after ++ back, by simp, before.append outside, fits,
    later.append behind⟩

/-! ## Words -/

/-- The words of a text are spaced in it as they are in a phrase. -/
theorem exists_spaced_words (text : List Char) : ∃ front middle back, text = front ++ middle ++ back ∧
    (∀ c ∈ front, isBlank c = true) ∧ Spaced (words text) middle ∧ ∀ c ∈ back, isBlank c = true := by
  induction text using blankInduction with
  | run run unbroken =>
    refine ⟨[], run, [], by simp, by simp, ?_, by simp⟩
    rw [words_of_unbroken unbroken]
    split
    · rename_i empty
      exact empty ▸ .none
    · exact .last (sameLetters_refl run)
  | cut run c rest unbroken blank ih =>
    obtain ⟨front, middle, back, rfl, before, spaced, behind⟩ := ih
    have gap : ∀ d ∈ c :: front, isBlank d = true := List.forall_mem_cons.mpr ⟨blank, before⟩
    rw [words_append_cons blank, words_of_unbroken unbroken]
    split
    · rename_i empty
      exact ⟨c :: front, middle, back, by simp [empty], gap, spaced, behind⟩
    · -- The run is the first word, and the last one too if only white space follows.
      cases later : words (front ++ middle ++ back) with
      | nil =>
        rw [later] at spaced
        cases spaced
        refine ⟨[], run, c :: front ++ back, by simp, by simp, .last (sameLetters_refl run), ?_⟩
        exact List.forall_mem_append.mpr ⟨gap, behind⟩
      | cons next others =>
        rw [later] at spaced
        refine ⟨[], run ++ (c :: front) ++ middle, back, by simp, by simp, ?_, behind⟩
        exact .more (sameLetters_refl run) (by simp) gap spaced

/-- What is spaced as the words of a text stands in the text. -/
private theorem standsIn_of_spaced (fits : ∀ middle, Spaced (words text) middle → pattern.Fits middle) :
    pattern.StandsIn text := by
  obtain ⟨front, middle, back, split, before, spaced, behind⟩ := exists_spaced_words text
  exact ⟨front, middle, back, split, .of_blank before, fits middle spaced, .of_blank behind⟩

private theorem standsIn_phrase (text : List Char) :
    (phrase ((words text).map String.ofList)).StandsIn text := by
  apply standsIn_of_spaced
  intro middle spaced
  simpa [Fits, List.map_map, Function.comp_def] using spaced

/-! ## Reading -/

private theorem standsIn_of_writtenFor (written : WrittenFor text pattern)
    (notGlob : ∀ glob, pattern ≠ .glob glob) : pattern.StandsIn text := by
  have quote : Wordless ['"'] := wordless_mark (by decide)
  cases written with
  | quotedWord only =>
    refine (standsIn_of_spaced fun middle spaced => ?_).surround quote quote
    rw [only] at spaced
    cases spaced with
    | last same => simpa [Fits] using same
  | quotedPhrase several => exact (standsIn_phrase _).surround quote quote
  | phrase unquoted blank => exact standsIn_phrase text
  | @beginning stem isWord first plain =>
    refine ⟨[], stem, ['*'], by simp, wordless_nil, ?_, wordless_mark (by decide)⟩
    simpa [Fits] using sameLetters_refl stem
  | glob unquoted isWord wild noBeginning => exact absurd rfl (notGlob _)
  | word unquoted isWord plain =>
    refine ⟨[], text, [], by simp, wordless_nil, ?_, wordless_nil⟩
    simpa [Fits] using sameLetters_refl text

/-- A pattern that was read stands in its text, unless it is a glob. -/
theorem standsIn_of_read {text : String} (success : read text = .ok pattern)
    (notGlob : ∀ glob, pattern ≠ .glob glob) : pattern.StandsIn text.toList := by
  obtain ⟨front, back, split, before, behind⟩ := exists_append_trim text.toList
  have stands := standsIn_of_writtenFor (read_eq_ok_iff.mp success) notGlob
  rw [split]
  exact stands.surround (.of_blank before) (.of_blank behind)

/-- A word, a phrase or the beginning of a word that was read from a text is found in that text: the
search answers yes, and so does the expression that the database is given. -/
theorem occursIn_own_text (table : CategoryTable) {text : String} (success : read text = .ok pattern)
    (notGlob : ∀ glob, pattern ≠ .glob glob) (compiles : pattern.regex.Compiles) :
    pattern.occursIn text = .ok true ∧
      ∃ compiled, read? pattern.regex.source.toList = some compiled ∧
        compiled.OccursIn table text.toList := by
  have found : pattern.regex.occursIn text.toList = true :=
    (regex_occursIn_iff pattern text.toList).mpr (standsIn_of_read success notGlob).occurs
  refine ⟨?_, _, read?_source _, ?_⟩
  · rw [occursIn, if_pos compiles, found]
  · exact (occursIn_iff_expression table _ _).mp found

/-- A quoted phrase between ideographic spaces, with a no-break space, a quote and a star inside. -/
theorem occursIn_quoted_phrase :
    let text := "\u3000\"Prêt-à-porter\u00A0\t50%* \"x\"\u3000"
    let pattern := phrase ["Prêt-à-porter", "50%*", "\"x"]
    read text = .ok pattern ∧ (∀ glob, pattern ≠ .glob glob) ∧ pattern.regex.Compiles ∧
      pattern.occursIn text = .ok true := by
  have success : read "\u3000\"Prêt-à-porter\u00A0\t50%* \"x\"\u3000" =
      .ok (phrase ["Prêt-à-porter", "50%*", "\"x"]) := by
    decide
  have notGlob : ∀ glob, phrase ["Prêt-à-porter", "50%*", "\"x"] ≠ .glob glob := by simp
  have compiles : (phrase ["Prêt-à-porter", "50%*", "\"x"]).regex.Compiles := by decide
  exact ⟨success, notGlob, compiles, (occursIn_own_text .coarse success notGlob compiles).1⟩

end WordPattern

end FieldSearch
