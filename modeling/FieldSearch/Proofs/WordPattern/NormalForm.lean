import FieldSearch.Proofs.Regex.Source
import FieldSearch.Proofs.WordPattern.RoundTrip
import FieldSearch.WordPattern.Matching
import Mathlib.Logic.Relation

/-! # Patterns with the same regular expression

A phrase of one word and a glob without wildcards are nothing but words, and a phrase of no words at all is
the empty word. Brought into this form, a pattern can be told from its regular expression: whether it has
an end, a gap or a wildcard in it says of which kind it is, and its letters are those of the pattern. So
the text that the database is given stands for one pattern in normal form only, and what is read is in
normal form.
-/

namespace FieldSearch.WordPattern

open Regex

/-- The pattern as a word, if it is no more than that. -/
def normal : WordPattern → WordPattern
  | .word spelling => .word spelling
  | .phrase [] => .word ""
  | .phrase [single] => .word single
  | .phrase words => .phrase words
  | .beginning stem => .beginning stem
  | .glob pattern => if pattern.toList.any isWildcard then .glob pattern else .word pattern

/-- The patterns say the same in two ways. -/
inductive Respelled : WordPattern → WordPattern → Prop
  | single (word : String) : Respelled (.phrase [word]) (.word word)
  | plain {word : String} : (∀ c ∈ word.toList, isWildcard c = false) →
      Respelled (.glob word) (.word word)
  | nothing : Respelled (.phrase []) (.phrase [""])

/-! ## The pattern of a regular expression -/

/-- The character that a piece is written for in a pattern. -/
def pieceChar : Piece → Char
  | .letter c => c
  | .wordChar => '?'
  | .wordRun => '*'
  | .wordStart | .gap | .wordEnd => ' '

/-- The text that pieces are written for in a pattern. -/
def spell (pieces : Regex) : String :=
  String.ofList (pieces.map pieceChar)

/-- The normal form of the pattern with these pieces between its two boundaries. -/
def ofBody (body : Regex) : WordPattern :=
  if .gap ∈ body then .phrase ((body.splitOn .gap).map spell)
  else if .wordChar ∈ body ∨ .wordRun ∈ body then .glob (spell body)
  else .word (spell body)

/-- The normal form of the pattern with this regular expression. -/
def ofRegex (regex : Regex) : WordPattern :=
  if .wordEnd ∈ regex then ofBody regex.tail.dropLast else .beginning (spell regex.tail)

theorem spell_letters (word : String) : spell (letters word) = word := by
  rw [spell, letters, List.map_map]
  exact (congrArg String.ofList (List.map_id _)).trans String.ofList_toList

theorem globPiece_of_plain {c : Char} (plain : isWildcard c = false) : globPiece c = .letter c := by
  obtain ⟨star, question⟩ : c ≠ '*' ∧ c ≠ '?' := by simpa [isWildcard] using plain
  rw [globPiece, if_neg star, if_neg question]

theorem pieceChar_globPiece (c : Char) : pieceChar (globPiece c) = c := by
  unfold globPiece
  split_ifs with star question
  · exact star.symm
  · exact question.symm
  · rfl

theorem spell_map_globPiece (pattern : List Char) :
    spell (pattern.map globPiece) = String.ofList pattern := by
  rw [spell, List.map_map]
  exact congrArg String.ofList (List.map_id'' pieceChar_globPiece pattern)

/-- A word is made of letters only. -/
theorem notMem_letters {piece : Piece} (word : String) (noLetter : ∀ c, piece ≠ .letter c) :
    piece ∉ letters word := by
  intro member
  obtain ⟨c, _, same⟩ := List.mem_map.mp member
  exact noLetter c same.symm

theorem ofBody_letters (word : String) : ofBody (letters word) = .word word := by
  have noGap : Piece.gap ∉ letters word := notMem_letters word nofun
  have noChar : Piece.wordChar ∉ letters word := notMem_letters word nofun
  have noRun : Piece.wordRun ∉ letters word := notMem_letters word nofun
  rw [ofBody, if_neg noGap, if_neg (not_or_intro noChar noRun), spell_letters]

theorem ofBody_phrase (words : List String) :
    ofBody (List.intercalate [.gap] (words.map letters)) = (phrase words).normal := by
  cases words with
  | nil => exact ofBody_letters ""
  | cons first others =>
    cases others with
    | nil =>
      rw [List.map_singleton, List.intercalate_singleton]
      exact ofBody_letters first
    | cons second others =>
      have gap : Piece.gap ∈
          List.intercalate [.gap] ((first :: second :: others).map letters) := by
        simp [List.intercalate_cons_cons]
      have apart : ∀ part ∈ (first :: second :: others).map letters, Piece.gap ∉ part :=
        List.forall_mem_map.mpr fun word _ => notMem_letters word nofun
      rw [ofBody, if_pos gap, List.splitOn_intercalate _ apart (by simp), List.map_map]
      exact congrArg phrase (List.map_id'' spell_letters _)

/-- A piece of a glob is a wildcard exactly if its character is one. -/
theorem wild_mem_map_globPiece_iff (pattern : List Char) :
    (Piece.wordChar ∈ pattern.map globPiece ∨ Piece.wordRun ∈ pattern.map globPiece) ↔
      pattern.any isWildcard = true := by
  induction pattern with
  | nil => simp
  | cons c pattern ih =>
    by_cases star : c = '*'
    · simp [star, globPiece, isWildcard]
    by_cases question : c = '?'
    · simp [question, globPiece, isWildcard]
    simpa [star, question, globPiece, isWildcard] using ih

theorem ofBody_glob (pattern : String) :
    ofBody (pattern.toList.map globPiece) = (glob pattern).normal := by
  have noGap : Piece.gap ∉ pattern.toList.map globPiece := by
    intro member
    obtain ⟨c, _, same⟩ := List.mem_map.mp member
    unfold globPiece at same
    split_ifs at same
  simp only [ofBody, if_neg noGap, wild_mem_map_globPiece_iff, spell_map_globPiece,
    String.ofList_toList, normal]

private theorem ofRegex_enclosed (body : Regex) :
    ofRegex (.wordStart :: body ++ [.wordEnd]) = ofBody body := by
  rw [ofRegex, if_pos (by simp), List.cons_append, List.tail_cons, List.dropLast_concat]

/-- The normal form of a pattern can be told from its regular expression. -/
theorem ofRegex_regex (pattern : WordPattern) : ofRegex pattern.regex = pattern.normal := by
  cases pattern with
  | word spelling => exact (ofRegex_enclosed _).trans (ofBody_letters spelling)
  | phrase words => exact (ofRegex_enclosed _).trans (ofBody_phrase words)
  | beginning stem =>
    -- Of all patterns only this one has no boundary behind it.
    have noEnd : Piece.wordEnd ∉ (beginning stem).regex :=
      List.not_mem_cons_of_ne_of_not_mem nofun (notMem_letters stem nofun)
    rw [ofRegex, if_neg noEnd, regex, List.tail_cons, spell_letters, normal]
  | glob pattern => exact (ofRegex_enclosed _).trans (ofBody_glob pattern)

/-! ## Normal forms -/

/-- The normal form does not change the regular expression. -/
theorem regex_normal (pattern : WordPattern) : pattern.normal.regex = pattern.regex := by
  cases pattern with
  | word spelling => rfl
  | phrase words =>
    match words with
    | [] => rfl
    | [single] => rw [normal, regex, regex, List.map_singleton, List.intercalate_singleton]
    | first :: second :: others => rfl
  | beginning stem => rfl
  | glob pattern =>
    rw [normal]
    split
    · rfl
    · rename_i noneWild
      have plain : ∀ c ∈ pattern.toList, isWildcard c = false := by simpa using noneWild
      have pieces : pattern.toList.map globPiece = letters pattern :=
        List.map_congr_left fun c member => globPiece_of_plain (plain c member)
      rw [regex, regex, pieces]

theorem Respelled.normal_eq {pattern other : WordPattern} (respelled : Respelled pattern other) :
    pattern.normal = other.normal := by
  cases respelled with
  | single word => rfl
  | plain plain => exact if_neg (by simpa using plain)
  | nothing => rfl

theorem eqvGen_normal (pattern : WordPattern) : Relation.EqvGen Respelled pattern pattern.normal := by
  cases pattern with
  | word spelling => exact .refl _
  | phrase words =>
    match words with
    | [] => exact .trans _ _ _ (.rel _ _ .nothing) (.rel _ _ (.single ""))
    | [single] => exact .rel _ _ (.single single)
    | first :: second :: others => exact .refl _
  | beginning stem => exact .refl _
  | glob pattern =>
    rw [normal]
    split
    · exact .refl _
    · rename_i noneWild
      exact .rel _ _ (.plain (by simpa using noneWild))

/-- Two patterns have one normal form exactly if one can be respelled as the other, step by step. -/
theorem normal_eq_iff {pattern other : WordPattern} :
    pattern.normal = other.normal ↔ Relation.EqvGen Respelled pattern other := by
  constructor
  · intro same
    have there := eqvGen_normal pattern
    have back := (eqvGen_normal other).symm
    rw [same] at there
    exact there.trans _ _ _ back
  · intro joined
    induction joined with
    | rel _ _ respelled => exact respelled.normal_eq
    | refl _ => rfl
    | symm _ _ _ ih => exact ih.symm
    | trans _ _ _ _ _ first second => exact first.trans second

/-- What can be written is in normal form. -/
theorem Writable.normal_eq {pattern : WordPattern} (writable : pattern.Writable) :
    pattern.normal = pattern := by
  cases writable with
  | word isWord => rfl
  | @phrase words several areWords =>
    match words with
    | first :: second :: others => rfl
  | beginning isWord first plain => rfl
  | glob isWord wild first last noBeginning =>
    rw [normal, if_pos (List.any_eq_true.mpr wild)]

theorem regex_eq_iff {pattern other : WordPattern} :
    pattern.regex = other.regex ↔ pattern.normal = other.normal := by
  constructor
  · intro same
    rw [← ofRegex_regex, ← ofRegex_regex, same]
  · intro same
    rw [← regex_normal, ← regex_normal other, same]

/-- The regular expressions of two patterns are the same text exactly if the patterns have one normal form,
which is so exactly if one can be respelled as the other. So patterns that were read from texts have one
regular expression only if they are the same. -/
theorem source_eq_iff_normal_eq (pattern other : WordPattern) :
    (pattern.regex.source = other.regex.source ↔ pattern.normal = other.normal) ∧
    (pattern.normal = other.normal ↔ Relation.EqvGen Respelled pattern other) ∧
    ∀ text more, read text = .ok pattern → read more = .ok other →
      pattern.regex.source = other.regex.source → pattern = other := by
  have sources : pattern.regex.source = other.regex.source ↔ pattern.normal = other.normal := by
    rw [source_injective.eq_iff, regex_eq_iff]
  refine ⟨sources, normal_eq_iff, fun text more first second same => ?_⟩
  have normal : pattern.normal = pattern :=
    ((read_eq_ok_iff.mp first).writable (Text.trim_unpadded _)).normal_eq
  have otherNormal : other.normal = other :=
    ((read_eq_ok_iff.mp second).writable (Text.trim_unpadded _)).normal_eq
  rw [← normal, ← otherNormal, sources.mp same]

/-- A star in quotes and a star behind a word make two expressions, and a phrase of the word in quotes
makes none of its own. -/
theorem source_ne_of_starred :
    read "\"9.*\"" = .ok (.word "9.*") ∧ read "9.*" = .ok (.beginning "9.") ∧
    (word "9.*").regex.source ≠ (beginning "9.").regex.source ∧
    (phrase ["9.*"]).regex.source = (word "9.*").regex.source := by
  have quoted : read "\"9.*\"" = .ok (.word "9.*") := by decide
  have plain : read "9.*" = .ok (.beginning "9.") := by decide
  refine ⟨quoted, plain, fun same => ?_, ?_⟩
  · cases (source_eq_iff_normal_eq _ _).2.2 _ _ quoted plain same
  · exact (source_eq_iff_normal_eq _ _).1.mpr rfl

end FieldSearch.WordPattern
