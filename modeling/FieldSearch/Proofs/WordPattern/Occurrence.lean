import FieldSearch.Proofs.Regex.Search
import FieldSearch.WordPattern.Matching

/-! # What it means that a pattern occurs in a text

A word pattern occurs in a text if the text splits into three parts: the middle one is what the
pattern stands for, in any case, and neither of the others continues a word across the cut. The
beginning of a word is cut off from what is in front of it only. This is said here without regular
expressions, and shown to be what the search for the pattern's regular expression finds.
-/

namespace FieldSearch

open Text Regex

namespace WordPattern

/-- The two texts are the same letter by letter, in any case. -/
def SameLetters (word written : List Char) : Prop :=
  List.Forall₂ (fun c d => sameLetter c d = true) word written

theorem sameLetters_refl (word : List Char) : SameLetters word word :=
  List.forall₂_same.mpr fun c _ => sameLetter_refl c

/-- Words in this order, each in any case, with white space between them and nothing around them. -/
inductive Spaced : List (List Char) → List Char → Prop
  | none : Spaced [] []
  | last {word written : List Char} : SameLetters word written → Spaced [word] written
  | more {word next : List Char} {words : List (List Char)} {written gap rest : List Char} :
      SameLetters word written → gap ≠ [] → (∀ c ∈ gap, isBlank c = true) →
      Spaced (next :: words) rest → Spaced (word :: next :: words) (written ++ gap ++ rest)

/-- A star stands for any run of word characters and a question mark for one of them. All else stands
for itself, in any case. -/
inductive FitsGlob : List Char → List Char → Prop
  | nil : FitsGlob [] []
  | star {pattern run rest : List Char} : (∀ c ∈ run, isWordChar c = true) →
      FitsGlob pattern rest → FitsGlob ('*' :: pattern) (run ++ rest)
  | question {pattern rest : List Char} {c : Char} : isWordChar c = true →
      FitsGlob pattern rest → FitsGlob ('?' :: pattern) (c :: rest)
  | letter {pattern rest : List Char} {c d : Char} : c ≠ '*' → c ≠ '?' → sameLetter c d = true →
      FitsGlob pattern rest → FitsGlob (c :: pattern) (d :: rest)

/-- What a pattern stands for. -/
def Fits : WordPattern → List Char → Prop
  | .word spelling => SameLetters spelling.toList
  | .phrase words => Spaced (words.map String.toList)
  | .beginning stem => SameLetters stem.toList
  | .glob pattern => FitsGlob pattern.toList

/-- No word goes on past the end of the text. -/
def EndsOutsideWord (text : List Char) : Prop :=
  text = [] ∨ ∃ front c, text = front ++ [c] ∧ isWordChar c = false

/-- No word comes in from before the text. -/
def StartsOutsideWord (text : List Char) : Prop :=
  text = [] ∨ ∃ c rest, text = c :: rest ∧ isWordChar c = false

/-- Whether what follows the pattern may go on with its last word. -/
def isOpen : WordPattern → Bool
  | .beginning _ => true
  | .word _ | .phrase _ | .glob _ => false

/-- The text splits around what the pattern stands for. -/
def Occurs (pattern : WordPattern) (text : List Char) : Prop :=
  ∃ before middle after, text = before ++ middle ++ after ∧ EndsOutsideWord before ∧
    pattern.Fits middle ∧ (pattern.isOpen = true ∨ StartsOutsideWord after)

/-! ## The pieces of a pattern -/

/-- The pieces between the boundaries of a pattern. -/
private def body : WordPattern → Regex
  | .word spelling => letters spelling
  | .phrase words => List.intercalate [.gap] (words.map letters)
  | .beginning stem => letters stem
  | .glob pattern => pattern.toList.map globPiece

private theorem regex_eq_body (pattern : WordPattern) : pattern.regex =
    .wordStart :: (pattern.body ++ if pattern.isOpen then [] else [.wordEnd]) := by
  cases pattern <;> simp [regex, body, isOpen]

variable {text place next : List Char}

private theorem leads_append (regex rest : Regex) : Leads text (regex ++ rest) place next ↔
    ∃ middle, Leads text regex place middle ∧ Leads text rest middle next := by
  induction regex generalizing place with
  | nil => simp [Leads]
  | cons piece regex ih =>
    simp only [List.cons_append, Leads, Relation.Comp, ih]
    constructor
    · rintro ⟨first, lead, middle, onward, final⟩
      exact ⟨middle, ⟨first, lead, onward⟩, final⟩
    · rintro ⟨middle, ⟨first, lead, onward⟩, final⟩
      exact ⟨first, lead, middle, onward, final⟩

/-- Letters lead past the same letters in any case. -/
private theorem leads_letters_iff (word : List Char) :
    Leads text (word.map Piece.letter) place next ↔
      ∃ written, place = written ++ next ∧ SameLetters word written := by
  induction word generalizing place with
  | nil =>
    simp only [List.map_nil, Leads, SameLetters, List.forall₂_nil_left_iff]
    simp [eq_comm]
  | cons c word ih =>
    simp only [List.map_cons, Leads, Relation.Comp, ih, Piece.Leads, Step, SameLetters]
    constructor
    · rintro ⟨_, ⟨d, rfl, same⟩, written, rfl, rest⟩
      exact ⟨d :: written, rfl, .cons same rest⟩
    · rintro ⟨_, rfl, same⟩
      rcases same with _ | ⟨same, rest⟩
      exact ⟨_, ⟨_, rfl, same⟩, _, rfl, rest⟩

private theorem leads_phrase_iff (words : List (List Char)) :
    Leads text (List.intercalate [.gap] (words.map (·.map Piece.letter))) place next ↔
      ∃ written, place = written ++ next ∧ Spaced words written := by
  induction words generalizing place with
  | nil =>
    constructor
    · rintro rfl
      exact ⟨[], rfl, .none⟩
    · rintro ⟨_, rfl, spaced⟩
      cases spaced
      rfl
  | cons word words ih =>
    cases words with
    | nil =>
      simp only [List.map_cons, List.map_nil, List.intercalate_singleton, leads_letters_iff]
      constructor
      · rintro ⟨written, rfl, same⟩
        exact ⟨written, rfl, .last same⟩
      · rintro ⟨written, rfl, spaced⟩
        cases spaced with
        | last same => exact ⟨written, rfl, same⟩
    | cons other words =>
      rw [List.map_cons, List.map_cons, List.intercalate_cons_cons, ← List.map_cons, leads_append]
      simp only [leads_append, leads_letters_iff, ih]
      constructor
      · rintro ⟨_, ⟨_, ⟨written, rfl, same⟩, lead⟩, rest, rfl, spaced⟩
        obtain ⟨_, lead, rfl⟩ := lead
        obtain ⟨gap, nonempty, rfl, blank⟩ := nonemptyRun_iff.mp lead
        exact ⟨written ++ gap ++ rest, by simp, .more same nonempty blank spaced⟩
      · rintro ⟨_, rfl, spaced⟩
        cases spaced with
        | @more _ _ _ written gap rest same nonempty blank spaced =>
          refine ⟨rest ++ next, ⟨gap ++ rest ++ next, ⟨written, by simp, same⟩, ?_⟩, rest, rfl, spaced⟩
          exact ⟨rest ++ next, nonemptyRun_iff.mpr ⟨gap, nonempty, by simp, blank⟩, rfl⟩

private theorem leads_glob_iff (pattern : List Char) :
    Leads text (pattern.map globPiece) place next ↔
      ∃ written, place = written ++ next ∧ FitsGlob pattern written := by
  induction pattern generalizing place with
  | nil =>
    constructor
    · rintro rfl
      exact ⟨[], rfl, .nil⟩
    · rintro ⟨_, rfl, fits⟩
      cases fits
      rfl
  | cons c pattern ih =>
    simp only [List.map_cons, Leads, Relation.Comp, ih]
    by_cases star : c = '*'
    · subst star
      constructor
      · rintro ⟨_, lead, rest, rfl, fits⟩
        obtain ⟨run, rfl, all⟩ := run_iff.mp lead
        exact ⟨run ++ rest, by simp, .star all fits⟩
      · rintro ⟨_, rfl, fits⟩
        cases fits with
        | @star _ run rest all fits =>
          exact ⟨rest ++ next, run_iff.mpr ⟨run, by simp, all⟩, rest, rfl, fits⟩
        | letter notStar => exact absurd rfl notStar
    by_cases question : c = '?'
    · subst question
      constructor
      · rintro ⟨_, ⟨d, rfl, inside⟩, rest, rfl, fits⟩
        exact ⟨d :: rest, rfl, .question inside fits⟩
      · rintro ⟨_, rfl, fits⟩
        cases fits with
        | question inside fits => exact ⟨_, ⟨_, rfl, inside⟩, _, rfl, fits⟩
        | letter _ notQuestion => exact absurd rfl notQuestion
    have letter : globPiece c = .letter c := by simp [globPiece, star, question]
    rw [letter]
    constructor
    · rintro ⟨_, ⟨d, rfl, same⟩, rest, rfl, fits⟩
      exact ⟨d :: rest, rfl, .letter star question same fits⟩
    · rintro ⟨_, rfl, fits⟩
      cases fits with
      | star => exact absurd rfl star
      | question => exact absurd rfl question
      | letter _ _ same fits => exact ⟨_, ⟨_, rfl, same⟩, _, rfl, fits⟩

/-- The pieces between the boundaries lead past what the pattern stands for. -/
private theorem leads_body_iff (pattern : WordPattern) : Leads text pattern.body place next ↔
    ∃ middle, place = middle ++ next ∧ pattern.Fits middle := by
  cases pattern with
  | word spelling => exact leads_letters_iff spelling.toList
  | phrase words =>
    have pieces : words.map letters = (words.map String.toList).map (·.map Piece.letter) := by
      rw [List.map_map]
      rfl
    rw [body, pieces]
    exact leads_phrase_iff _
  | beginning stem => exact leads_letters_iff stem.toList
  | glob pattern => exact leads_glob_iff pattern.toList

/-! ## Boundaries -/

private theorem leads_wordStart_iff : (∃ before place, text = before ++ place ∧
      Piece.wordStart.Leads text place next) ↔
    ∃ before, text = before ++ next ∧ EndsOutsideWord before := by
  constructor
  · rintro ⟨before, place, split, ⟨rfl, rfl⟩ | ⟨c, rfl, boundary⟩⟩
    · exact ⟨[], rfl, .inl rfl⟩
    · refine ⟨before ++ [c], by simpa using split, .inr ⟨before, c, rfl, ?_⟩⟩
      simpa [isBoundary] using boundary
  · rintro ⟨before, split, rfl | ⟨front, c, rfl, outside⟩⟩
    · exact ⟨[], next, split, .inl ⟨split.symm, rfl⟩⟩
    · exact ⟨front, c :: next, by simpa using split, .inr ⟨c, rfl, by simp [isBoundary, outside]⟩⟩

private theorem leads_ending_iff (pattern : WordPattern) (text : List Char) :
    (∃ next, Leads text (if pattern.isOpen then [] else [.wordEnd]) place next) ↔
      pattern.isOpen = true ∨ StartsOutsideWord place := by
  cases isOpen : pattern.isOpen with
  | true => simp [Leads]
  | false =>
    constructor
    · rintro ⟨_, _, ⟨c, rfl, boundary⟩ | ⟨rfl, rfl⟩, rfl⟩
      · exact .inr (.inr ⟨c, _, rfl, by simpa [isBoundary] using boundary⟩)
      · exact .inr (.inl rfl)
    · rintro (isOpen | rfl | ⟨c, rest, rfl, outside⟩)
      · cases isOpen
      · exact ⟨[], [], .inr ⟨rfl, rfl⟩, rfl⟩
      · exact ⟨rest, rest, .inl ⟨c, rfl, by simp [isBoundary, outside]⟩, rfl⟩

/-- The search for a pattern's regular expression finds the splits of the text around the pattern. -/
theorem regex_occursIn_iff (pattern : WordPattern) (text : List Char) :
    pattern.regex.occursIn text = true ↔ pattern.Occurs text := by
  rw [occursIn_iff, regex_eq_body]
  constructor
  · rintro ⟨before, place, _, split, start, lead, onward⟩
    obtain ⟨before, split, ends⟩ := leads_wordStart_iff.mp ⟨before, place, split, lead⟩
    obtain ⟨after, lead, final⟩ := (leads_append _ _).mp onward
    obtain ⟨middle, rfl, fits⟩ := (leads_body_iff pattern).mp lead
    exact ⟨before, middle, after, by simpa using split, ends, fits,
      (leads_ending_iff pattern text).mp ⟨_, final⟩⟩
  · rintro ⟨before, middle, after, split, ends, fits, starts⟩
    rw [List.append_assoc] at split
    obtain ⟨before, place, split, lead⟩ := leads_wordStart_iff.mpr ⟨before, split, ends⟩
    obtain ⟨final, onward⟩ := (leads_ending_iff pattern text).mpr starts
    exact ⟨before, place, final, split, _, lead, (leads_append _ _).mpr
      ⟨after, (leads_body_iff pattern).mpr ⟨middle, rfl, fits⟩, onward⟩⟩

/-- A pattern's regular expression reads back from its text. If it compiles, the search answers, and
three things are the same: the answer is yes, the expression that was read occurs in the text, and
the text splits around the pattern. -/
theorem occursIn_iff_occurs (table : CategoryTable) (pattern : WordPattern) (text : String)
    (compiles : pattern.regex.Compiles) :
    ∃ compiled found, read? pattern.regex.source.toList = some compiled ∧
      pattern.occursIn text = .ok found ∧
      (found = true ↔ compiled.OccursIn table text.toList) ∧
      (found = true ↔ pattern.Occurs text.toList) :=
  ⟨_, pattern.regex.occursIn text.toList, read?_source _, if_pos compiles,
    occursIn_iff_expression table _ _, regex_occursIn_iff pattern _⟩

/-- A phrase with a metacharacter, an accent and a no-break space, in mixed case. -/
theorem phrase_occursIn_iff_occurs :
    (phrase ["v1.0", "café"]).regex.Compiles ∧
    (phrase ["v1.0", "café"]).occursIn "un V1.0\u00A0 CAFÉ, merci" = .ok true ∧
    (phrase ["v1.0", "café"]).Occurs "un V1.0\u00A0 CAFÉ, merci".toList := by
  have compiles : (phrase ["v1.0", "café"]).regex.Compiles := by decide
  have finds : (phrase ["v1.0", "café"]).occursIn "un V1.0\u00A0 CAFÉ, merci" = .ok true := by
    decide +kernel
  obtain ⟨_, found, _, answer, _, splits⟩ := occursIn_iff_occurs .coarse
    (phrase ["v1.0", "café"]) "un V1.0\u00A0 CAFÉ, merci" compiles
  rw [finds] at answer
  cases answer
  exact ⟨compiles, finds, splits.mp rfl⟩

end WordPattern

end FieldSearch
