import FieldSearch.Proofs.WordPattern.Notation

/-! # Which patterns can be written, and read back

Any word and any phrase can be written, in quotes if need be. The beginning of a word and a glob can only
be written without them, so they are the patterns that nothing else is written as. A pattern is shown as a
text that it was written as, but for a word that needs its quotes: they are not shown, and the word is read
back as something else or not at all.
-/

namespace FieldSearch.WordPattern

open Text

/-- The patterns that can be written. -/
inductive Writable : WordPattern → Prop
  | word {spelling : String} : IsWord spelling.toList → Writable (.word spelling)
  | phrase {words : List String} : 2 ≤ words.length → (∀ word ∈ words, IsWord word.toList) →
      Writable (.phrase words)
  | beginning {stem : String} : IsWord stem.toList → stem.toList.head? ≠ some '"' →
      (∀ c ∈ stem.toList, isWildcard c = false) → Writable (.beginning stem)
  | glob {pattern : String} : IsWord pattern.toList → (∃ c ∈ pattern.toList, isWildcard c = true) →
      pattern.toList.head? ≠ some '"' → pattern.toList.getLast? ≠ some '"' →
      NoBeginning pattern.toList → Writable (.glob pattern)

/-- The pattern is a word that is written in quotes only, for a wildcard or a quote at one of its ends. -/
def NeedsQuotes : WordPattern → Prop
  | .word spelling => (∃ c ∈ spelling.toList, isWildcard c = true) ∨
      spelling.toList.head? = some '"' ∨ spelling.toList.getLast? = some '"'
  | .phrase _ | .beginning _ | .glob _ => False

variable {text : List Char} {pattern : WordPattern}

/-! ## What is written -/

private theorem writable_phrase {parts : List (List Char)} (several : 2 ≤ parts.length)
    (areWords : ∀ part ∈ parts, IsWord part) : Writable (.phrase (parts.map String.ofList)) := by
  refine .phrase (by simpa using several) ?_
  intro word member
  obtain ⟨part, listed, rfl⟩ := List.mem_map.mp member
  simpa using areWords part listed

theorem WrittenFor.writable (written : WrittenFor text pattern) (unpadded : Unpadded text) :
    pattern.Writable := by
  cases written with
  | quotedWord only =>
    have isWord := isWord_of_mem_words (only ▸ List.mem_singleton_self _)
    exact .word (by simpa using isWord)
  | quotedPhrase several => exact writable_phrase several fun _ => isWord_of_mem_words
  | phrase unquoted blank =>
    obtain ⟨c, member, blank⟩ := blank
    exact writable_phrase (two_le_length_words unpadded member blank) fun _ => isWord_of_mem_words
  | beginning isWord first plain =>
    exact .beginning (by simpa using isWord) (by simpa using first) (by simpa using plain)
  | glob unquoted isWord wild noBeginning =>
    exact .glob (by simpa using isWord) (by simpa using wild) (by simpa using unquoted.first)
      (by simpa using unquoted.last) (by simpa using noBeginning)
  | word unquoted isWord plain => exact .word (by simpa using isWord)

/-- Quotes go around any word. -/
theorem writtenFor_quoted {spelling : String} (isWord : IsWord spelling.toList) :
    WrittenFor (['"'] ++ spelling.toList ++ ['"']) (.word spelling) := by
  have written : WrittenFor (['"'] ++ spelling.toList ++ ['"']) (.word (String.ofList spelling.toList)) :=
    .quotedWord isWord.words_eq
  rwa [String.ofList_toList] at written

theorem unpadded_quoted (inner : List Char) : Unpadded (['"'] ++ inner ++ ['"']) := by
  have mark : isBlank '"' = false := by decide
  refine ⟨fun c first => ?_, fun c last => ?_⟩
  · exact Option.some_inj.mp first ▸ mark
  · rw [List.getLast?_concat] at last
    exact Option.some_inj.mp last ▸ mark

/-! ## What is shown -/

theorem toList_render_phrase (words : List String) : (phrase words).render.toList =
    ['"'] ++ [' '].intercalate (words.map String.toList) ++ ['"'] := by
  have quote : "\"".toList = ['"'] := by decide
  have space : " ".toList = [' '] := by decide
  rw [render, String.toList_append, String.toList_append, String.toList_intercalate, quote, space]

theorem toList_render_beginning (stem : String) :
    (beginning stem).render.toList = stem.toList ++ ['*'] := by
  have star : "*".toList = ['*'] := by decide
  rw [render, String.toList_append, star]

theorem Writable.unpadded_render (writable : pattern.Writable) : Unpadded pattern.render.toList := by
  cases writable with
  | word isWord => exact unpadded_of_unbroken isWord.2
  | phrase several areWords =>
    rw [toList_render_phrase]
    exact unpadded_quoted _
  | beginning isWord first plain =>
    rw [toList_render_beginning]
    exact unpadded_of_unbroken (isWord_starred isWord).2
  | glob isWord wild first last noBeginning => exact unpadded_of_unbroken isWord.2

/-- A pattern is written as it is shown, unless it needs quotes that are not shown. -/
theorem Writable.writtenFor_render (writable : pattern.Writable) (plainly : ¬ pattern.NeedsQuotes) :
    WrittenFor pattern.render.toList pattern := by
  cases writable with
  | @word spelling isWord =>
    obtain ⟨plain, first, last⟩ : (∀ c ∈ spelling.toList, isWildcard c = false) ∧
        spelling.toList.head? ≠ some '"' ∧ spelling.toList.getLast? ≠ some '"' := by
      simpa [NeedsQuotes] using plainly
    have written : WrittenFor spelling.toList (.word (String.ofList spelling.toList)) :=
      .word ⟨isWord.1, first, last⟩ isWord plain
    rwa [String.ofList_toList] at written
  | @phrase words several areWords =>
    have parts : Text.words ([' '].intercalate (words.map String.toList)) = words.map String.toList :=
      words_intercalate (List.forall_mem_map.mpr areWords)
    have spelled : (words.map String.toList).map String.ofList = words := by
      simp [List.map_map, Function.comp_def]
    have written : WrittenFor (['"'] ++ [' '].intercalate (words.map String.toList) ++ ['"']) _ :=
      .quotedPhrase (by simpa [parts] using several)
    rwa [parts, spelled, ← toList_render_phrase] at written
  | @beginning stem isWord first plain =>
    have written : WrittenFor (stem.toList ++ ['*']) (.beginning (String.ofList stem.toList)) :=
      .beginning isWord first plain
    rwa [String.ofList_toList, ← toList_render_beginning] at written
  | @glob glob isWord wild first last noBeginning =>
    have written : WrittenFor glob.toList (.glob (String.ofList glob.toList)) :=
      .glob ⟨isWord.1, first, last⟩ isWord wild noBeginning
    rwa [String.ofList_toList] at written

/-- A word in quotes is longer than the word, so no word is written as itself in that way. -/
theorem WrittenFor.not_needsQuotes {spelling : String} (written : WrittenFor text (.word spelling))
    (shown : spelling.toList = text) : ¬ (WordPattern.word spelling).NeedsQuotes := by
  cases written with
  | @quotedWord inner word only =>
    rw [String.toList_ofList] at shown
    have isWord : IsWord word := isWord_of_mem_words (only ▸ List.mem_singleton_self _)
    have unbroken : ∀ c ∈ inner, isBlank c = false := fun c member =>
      isWord.2 c (by simp [shown, member])
    rw [words_of_unbroken unbroken] at only
    split at only
    · cases only
    · have longer := congrArg List.length shown
      rw [← (List.cons.inj only).1] at longer
      simp only [List.length_append, List.length_singleton] at longer
      omega
  | word unquoted isWord plain =>
    rw [NeedsQuotes, shown]
    rintro (⟨c, member, wild⟩ | first | last)
    · simp [plain c member] at wild
    · exact unquoted.first first
    · exact unquoted.last last

/-! ## Reading -/

/-- A text is refused exactly if nothing of it is left without the white space around it, its quotes
hold nothing but white space, or a quote at one of its ends has no other to enclose the text with. What
is read from all other texts is a pattern that can be written, and every such pattern is read from some
text. -/
theorem read_error_iff_and_ok_iff :
    (∀ text fault, read text = .error fault ↔
      ∃ reason, Refused (trim text.toList) reason ∧ fault = .invalidLiteral .text text reason) ∧
    ∀ pattern : WordPattern, (∃ text, read text = .ok pattern) ↔ pattern.Writable := by
  refine ⟨fun text fault => read_eq_error_iff, fun pattern => ⟨?_, ?_⟩⟩
  · rintro ⟨text, success⟩
    exact (read_eq_ok_iff.mp success).writable (trim_unpadded _)
  · intro writable
    by_cases quotes : pattern.NeedsQuotes
    · cases writable with
      | @word spelling isWord =>
        refine ⟨String.ofList (['"'] ++ spelling.toList ++ ['"']), read_eq_ok_iff.mpr ?_⟩
        rw [String.toList_ofList, trim_eq_self_iff.mpr (unpadded_quoted _)]
        exact writtenFor_quoted isWord
      | phrase | beginning | glob => exact quotes.elim
    · refine ⟨pattern.render, read_eq_ok_iff.mpr ?_⟩
      rw [trim_eq_self_iff.mpr writable.unpadded_render]
      exact writable.writtenFor_render quotes

/-- A pattern that was read is read back from what is shown of it exactly if it is no word that needs its
quotes. So everything but words is read back. -/
theorem read_render_iff_not_needsQuotes {text : String} (success : read text = .ok pattern) :
    (read pattern.render = .ok pattern ↔ ¬ pattern.NeedsQuotes) ∧
    ((∀ spelling, pattern ≠ .word spelling) → read pattern.render = .ok pattern) := by
  have writable : pattern.Writable := (read_eq_ok_iff.mp success).writable (trim_unpadded _)
  have back : read pattern.render = .ok pattern ↔ WrittenFor pattern.render.toList pattern := by
    rw [read_eq_ok_iff, trim_eq_self_iff.mpr writable.unpadded_render]
  have plainly : read pattern.render = .ok pattern ↔ ¬ pattern.NeedsQuotes := by
    rw [back]
    refine ⟨fun written => ?_, writable.writtenFor_render⟩
    cases pattern with
    | word spelling => exact written.not_needsQuotes rfl
    | phrase | beginning | glob => exact not_false
  refine ⟨plainly, fun noWord => plainly.mpr ?_⟩
  cases pattern with
  | word spelling => exact absurd rfl (noWord spelling)
  | phrase | beginning | glob => exact not_false

/-- A star in quotes is lost, and a quote and a star inside of a phrase are not. -/
theorem read_render_of_starred :
    (read "\"f*x\"" = .ok (.word "f*x") ∧
      read (word "f*x").render ≠ .ok (.word "f*x")) ∧
    (read "a \"b\tc*" = .ok (.phrase ["a", "\"b", "c*"]) ∧
      read (phrase ["a", "\"b", "c*"]).render = .ok (.phrase ["a", "\"b", "c*"])) := by
  have star : read "\"f*x\"" = .ok (.word "f*x") := by decide
  have spaced : read "a \"b\tc*" = .ok (.phrase ["a", "\"b", "c*"]) := by decide
  have wild : (word "f*x").NeedsQuotes := .inl ⟨'*', by decide, by decide⟩
  refine ⟨⟨star, fun back => ?_⟩, spaced, ?_⟩
  · exact (read_render_iff_not_needsQuotes star).1.mp back wild
  · exact (read_render_iff_not_needsQuotes spaced).2 (by simp)

end FieldSearch.WordPattern
