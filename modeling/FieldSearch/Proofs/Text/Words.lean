import FieldSearch.Proofs.Text.CaseFold
import FieldSearch.Proofs.Text.Trim
import Mathlib.Data.List.TakeWhile

/-! # The words of a text

A text is cut at its white space, one character after the other, so that all about its words follows
from how they come together at one of them. White space is no part of a word anywhere: what the
library reads by and what it searches by agree on where words end. Words that are put together with
spaces are the words of what they make.
-/

namespace FieldSearch.Text

/-- White space is outside of the words that are searched for, in any script. -/
theorem isWordChar_eq_false_of_isBlank {c : Char} (blank : isBlank c = true) :
    isWordChar c = false := by
  obtain ⟨range, member, above, below⟩ := inRanges_iff.mp blank
  have missed : blankRanges.all (fun range => missesSpan wordRanges range.1 range.2) = true := by
    decide +kernel
  exact inRanges_of_missesSpan (List.all_eq_true.mp missed range member) above below

/-- No character in front of the digits is part of a word: neither punctuation nor quotes nor stars. -/
theorem isWordChar_eq_false_of_lt {c : Char} (low : c.toNat < '0'.toNat) : isWordChar c = false := by
  have missed : missesSpan wordRanges 0 47 = true := by decide +kernel
  have below : c.toNat ≤ 47 := Nat.le_of_lt_succ low
  exact inRanges_of_missesSpan missed (Nat.zero_le _) below

@[simp]
theorem words_nil : words [] = [] := by
  simp [words, List.splitOnP_nil]

/-- At white space the words of a text come together. -/
theorem words_append_cons {c : Char} (blank : isBlank c = true) (front back : List Char) :
    words (front ++ c :: back) = words front ++ words back := by
  rw [words, List.splitOnP_append_cons front back blank, List.filter_append]
  rfl

/-- Without white space a text is one word, if it is anything at all. -/
theorem words_of_unbroken {run : List Char} (unbroken : ∀ c ∈ run, isBlank c = false) :
    words run = if run = [] then [] else [run] := by
  rw [words, List.splitOnP_eq_singleton unbroken]
  by_cases empty : run = [] <;> simp [empty]

/-- Every text is a run without white space, alone or in front of white space and another text. -/
@[elab_as_elim]
theorem blankInduction {motive : List Char → Prop}
    (run : ∀ run, (∀ c ∈ run, isBlank c = false) → motive run)
    (cut : ∀ run c rest, (∀ d ∈ run, isBlank d = false) → isBlank c = true → motive rest →
      motive (run ++ c :: rest)) (text : List Char) : motive text := by
  obtain ⟨front, back, shape, inside, stops⟩ := exists_run (!isBlank ·) text
  have unbroken : ∀ c ∈ front, isBlank c = false := by
    simpa using inside
  cases back with
  | nil =>
    rw [shape, List.append_nil]
    exact run front unbroken
  | cons c rest =>
    have blank : isBlank c = true := by
      simpa using stops c rfl
    have shorter : rest.length < text.length := by
      rw [shape, List.length_append, List.length_cons]
      omega
    exact shape ▸ cut front c rest unbroken blank (blankInduction run cut rest)
termination_by text.length

/-- Only white space has no words. -/
theorem words_eq_nil_iff {text : List Char} : words text = [] ↔ ∀ c ∈ text, isBlank c = true := by
  induction text using blankInduction with
  | run run unbroken =>
    rw [words_of_unbroken unbroken]
    cases run with
    | nil => simp
    | cons c run => simp [unbroken c List.mem_cons_self]
  | cut run c rest unbroken blank ih =>
    rw [words_append_cons blank, List.append_eq_nil_iff, ih, words_of_unbroken unbroken,
      List.forall_mem_append, List.forall_mem_cons, and_iff_right blank]
    cases run with
    | nil => simp
    | cons d run => simp [unbroken d List.mem_cons_self]

/-! ## Single words -/

/-- The text is one word: there is something of it, and no white space in it. -/
def IsWord (text : List Char) : Prop :=
  text ≠ [] ∧ ∀ c ∈ text, isBlank c = false

theorem IsWord.words_eq {word : List Char} (isWord : IsWord word) : words word = [word] := by
  rw [words_of_unbroken isWord.2, if_neg isWord.1]

/-- A text without white space in it has none around it either. -/
theorem unpadded_of_unbroken {run : List Char} (unbroken : ∀ c ∈ run, isBlank c = false) :
    Unpadded run :=
  ⟨fun c first => unbroken c (List.mem_of_head? first),
    fun c last => unbroken c (List.mem_of_getLast? last)⟩

private theorem isWord_of_mem_words_run {run word : List Char}
    (unbroken : ∀ c ∈ run, isBlank c = false) (member : word ∈ words run) : IsWord word := by
  rw [words_of_unbroken unbroken] at member
  split at member
  · cases member
  · rename_i nonempty
    obtain rfl := List.mem_singleton.mp member
    exact ⟨nonempty, unbroken⟩

theorem isWord_of_mem_words {text word : List Char} (member : word ∈ words text) : IsWord word := by
  induction text using blankInduction with
  | run run unbroken => exact isWord_of_mem_words_run unbroken member
  | cut run c rest unbroken blank ih =>
    rw [words_append_cons blank] at member
    rcases List.mem_append.mp member with first | later
    · exact isWord_of_mem_words_run unbroken first
    · exact ih later

/-- Words that are put together with spaces come apart again. -/
theorem words_intercalate {parts : List (List Char)} (areWords : ∀ part ∈ parts, IsWord part) :
    words ([' '].intercalate parts) = parts := by
  induction parts with
  | nil => exact words_nil
  | cons part parts ih =>
    obtain ⟨isWord, others⟩ := List.forall_mem_cons.mp areWords
    cases parts with
    | nil => rw [List.intercalate_singleton, isWord.words_eq]
    | cons next parts =>
      rw [List.intercalate_cons_cons, List.append_assoc, List.singleton_append,
        words_append_cons (by decide), isWord.words_eq, ih others]
      rfl

/-- White space inside of a text has a word on either side, if there is none around the text. -/
theorem two_le_length_words {text : List Char} (unpadded : Unpadded text) {c : Char}
    (member : c ∈ text) (blank : isBlank c = true) : 2 ≤ (words text).length := by
  obtain ⟨front, back, rfl⟩ := List.append_of_mem member
  have before : words front ≠ [] := by
    intro none
    have allBlank := words_eq_nil_iff.mp none
    cases front with
    | nil => simpa [blank] using unpadded.1 c rfl
    | cons d front => simpa [allBlank d List.mem_cons_self] using unpadded.1 d rfl
  have behind : words back ≠ [] := by
    intro none
    have allBlank : ∀ d ∈ c :: back, isBlank d = true :=
      List.forall_mem_cons.mpr ⟨blank, words_eq_nil_iff.mp none⟩
    have last := List.getLast?_eq_some_getLast (List.cons_ne_nil c back)
    rw [← List.getLast?_append_of_ne_nil front (List.cons_ne_nil c back)] at last
    simpa [allBlank _ (List.getLast_mem _)] using unpadded.2 _ last
  have first := List.length_pos_of_ne_nil before
  have second := List.length_pos_of_ne_nil behind
  rw [words_append_cons blank, List.length_append]
  omega

end FieldSearch.Text
