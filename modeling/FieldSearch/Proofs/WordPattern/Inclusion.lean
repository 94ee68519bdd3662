import FieldSearch.Proofs.WordPattern.NormalForm
import FieldSearch.Proofs.WordPattern.OwnText

/-! # Patterns that occur wherever others do

The beginning of a word occurs where the glob with a star behind it does, since a run of word characters
goes on up to a boundary. A phrase occurs with all its parts: where it is cut there is white space, which
is no part of a word, so the part is bounded as a phrase of its own.
-/

namespace FieldSearch

open Text Regex

namespace WordPattern

/-- The search for the pattern answers this, and so does the expression that the database is given. -/
structure GivesAnswer (table : CategoryTable) (pattern : WordPattern) (text : String) (found : Bool) :
    Prop where
  search : pattern.occursIn text = .ok found
  expression : ∃ compiled, read? pattern.regex.source.toList = some compiled ∧
    (found = true ↔ compiled.OccursIn table text.toList)

theorem exists_givesAnswer (table : CategoryTable) {pattern : WordPattern} (text : String)
    (compiles : pattern.regex.Compiles) :
    ∃ found, GivesAnswer table pattern text found ∧ (found = true ↔ pattern.Occurs text.toList) := by
  obtain ⟨compiled, found, readBack, answer, expression, splits⟩ :=
    occursIn_iff_occurs table pattern text compiles
  exact ⟨found, ⟨answer, compiled, readBack, expression⟩, splits⟩

/-- Patterns with one regular expression give the same answers. -/
theorem GivesAnswer.of_regex_eq {table : CategoryTable} {pattern other : WordPattern} {text : String}
    {found : Bool} (answer : GivesAnswer table pattern text found) (same : pattern.regex = other.regex) :
    GivesAnswer table other text found where
  search := by
    rw [occursIn, ← same]
    exact answer.search
  expression := same ▸ answer.expression

variable {text : List Char}

/-! ## Beginnings -/

/-- The characters in front of the wildcards of a glob stand for themselves. -/
theorem fitsGlob_append_iff {stem glob : List Char} (plain : ∀ c ∈ stem, isWildcard c = false) :
    FitsGlob (stem ++ glob) text ↔
      ∃ written rest, text = written ++ rest ∧ SameLetters stem written ∧ FitsGlob glob rest := by
  induction stem generalizing text with
  | nil => simp [SameLetters]
  | cons c stem ih =>
    obtain ⟨first, plain⟩ := List.forall_mem_cons.mp plain
    obtain ⟨notStar, notQuestion⟩ : c ≠ '*' ∧ c ≠ '?' := by simpa [isWildcard] using first
    constructor
    · intro fits
      cases fits with
      | star => exact absurd rfl notStar
      | question => exact absurd rfl notQuestion
      | letter _ _ same fits =>
        obtain ⟨written, rest, rfl, others, fits⟩ := (ih plain).mp fits
        exact ⟨_ :: written, rest, rfl, .cons same others, fits⟩
    · rintro ⟨_, rest, rfl, same, fits⟩
      rcases same with _ | ⟨same, others⟩
      exact .letter notStar notQuestion same ((ih plain).mpr ⟨_, rest, rfl, others, fits⟩)

theorem fitsGlob_star_iff : FitsGlob ['*'] text ↔ ∀ c ∈ text, isWordChar c = true := by
  constructor
  · intro fits
    cases fits with
    | star inside fits =>
      cases fits
      simpa using inside
    | letter notStar => exact absurd rfl notStar
  · intro inside
    rw [← List.append_nil text]
    exact .star inside .nil

/-- A word goes on up to a boundary. -/
theorem exists_run_to_boundary (text : List Char) : ∃ run rest, text = run ++ rest ∧
    (∀ c ∈ run, isWordChar c = true) ∧ StartsOutsideWord rest := by
  obtain ⟨run, rest, shape, inside, stops⟩ := exists_run isWordChar text
  refine ⟨run, rest, shape, inside, ?_⟩
  cases rest with
  | nil => exact .inl rfl
  | cons c rest => exact .inr ⟨c, rest, rfl, stops c rfl⟩

theorem occurs_beginning_iff {stem : String} (plain : ∀ c ∈ stem.toList, isWildcard c = false) :
    (beginning stem).Occurs text ↔ (glob (stem ++ "*")).Occurs text := by
  have spelling : (stem ++ "*").toList = stem.toList ++ ['*'] := String.toList_append
  constructor
  · rintro ⟨before, middle, after, rfl, ends, fits, _⟩
    obtain ⟨run, rest, rfl, inside, starts⟩ := exists_run_to_boundary after
    refine ⟨before, middle ++ run, rest, by simp, ends, ?_, .inr starts⟩
    rw [Fits, spelling, fitsGlob_append_iff plain]
    exact ⟨middle, run, rfl, fits, fitsGlob_star_iff.mpr inside⟩
  · rintro ⟨before, middle, after, rfl, ends, fits, _⟩
    rw [Fits, spelling, fitsGlob_append_iff plain] at fits
    obtain ⟨written, rest, rfl, same, _⟩ := fits
    exact ⟨before, written, rest ++ after, by simp, ends, same, .inl rfl⟩

/-- The beginning of a word and the glob with a star behind it give the same answer for every text. -/
theorem beginning_givesAnswer_glob (table : CategoryTable) (stem text : String)
    (plain : ∀ c ∈ stem.toList, isWildcard c = false) (compiles : (beginning stem).regex.Compiles)
    (starredCompiles : (glob (stem ++ "*")).regex.Compiles) :
    ∃ found, GivesAnswer table (beginning stem) text found ∧
      GivesAnswer table (glob (stem ++ "*")) text found := by
  obtain ⟨found, answer, splits⟩ := exists_givesAnswer table text compiles
  obtain ⟨again, starredAnswer, starredSplits⟩ := exists_givesAnswer table text starredCompiles
  have same : found = again := by
    rw [Bool.eq_iff_iff, splits, starredSplits]
    exact occurs_beginning_iff plain
  exact ⟨found, answer, same ▸ starredAnswer⟩

/-- A stem that ends outside of a word, with a word behind it in the text. -/
theorem beginning_givesAnswer_hyphenated :
    (∀ c ∈ "café-".toList, isWildcard c = false) ∧ (beginning "café-").regex.Compiles ∧
    (glob "café-*").regex.Compiles ∧
    (beginning "café-").occursIn "un «CAFÉ-crème»" = .ok true ∧
    (glob "café-*").occursIn "un «CAFÉ-crème»" = .ok true := by
  have plain : ∀ c ∈ "café-".toList, isWildcard c = false := by
    have noWildcard : "café-".toList.any isWildcard = false := by decide
    simpa only [List.any_eq_false, Bool.not_eq_true] using noWildcard
  have compiles : (beginning "café-").regex.Compiles := by decide
  have starredCompiles : (glob "café-*").regex.Compiles := by decide
  have finds : (beginning "café-").occursIn "un «CAFÉ-crème»" = .ok true := by decide +kernel
  obtain ⟨found, ⟨search, _⟩, starred⟩ :=
    beginning_givesAnswer_glob .coarse "café-" "un «CAFÉ-crème»" plain compiles starredCompiles
  rw [finds] at search
  cases search
  exact ⟨plain, compiles, starredCompiles, finds, starred.search⟩

/-! ## Parts of phrases -/

/-- Where a phrase is cut there is a gap in the text. -/
theorem Spaced.exists_cut {front back : List (List Char)} (spaced : Spaced (front ++ back) text)
    (before : front ≠ []) (behind : back ≠ []) :
    ∃ first gap second, text = first ++ gap ++ second ∧ Spaced front first ∧ gap ≠ [] ∧
      (∀ c ∈ gap, isBlank c = true) ∧ Spaced back second := by
  induction front generalizing text with
  | nil => exact absurd rfl before
  | cons word front ih =>
    obtain ⟨next, others, shape⟩ :=
      List.exists_cons_of_ne_nil (List.append_ne_nil_of_right_ne_nil front behind)
    rw [List.cons_append, shape] at spaced
    cases spaced with
    | @more _ _ _ written gap rest same nonempty blank spaced =>
      rw [← shape] at spaced
      cases front with
      | nil => exact ⟨written, gap, rest, rfl, .last same, nonempty, blank, spaced⟩
      | cons second front =>
        obtain ⟨first, later, last, rfl, opening, apart, blanks, closing⟩ := ih spaced (List.cons_ne_nil _ _)
        exact ⟨written ++ gap ++ first, later, last, by simp, .more same nonempty blank opening, apart, blanks,
          closing⟩

theorem endsOutsideWord_append_gap {gap : List Char} (front : List Char) (nonempty : gap ≠ [])
    (blank : ∀ c ∈ gap, isBlank c = true) : EndsOutsideWord (front ++ gap) := by
  obtain ⟨inside, c, rfl⟩ := List.eq_nil_or_concat' gap |>.resolve_left nonempty
  exact .inr ⟨front ++ inside, c, by simp, isWordChar_eq_false_of_isBlank (blank c (by simp))⟩

theorem startsOutsideWord_gap_append {gap : List Char} (back : List Char) (nonempty : gap ≠ [])
    (blank : ∀ c ∈ gap, isBlank c = true) : StartsOutsideWord (gap ++ back) := by
  obtain ⟨c, inside, rfl⟩ := List.exists_cons_of_ne_nil nonempty
  exact .inr ⟨c, inside ++ back, rfl, isWordChar_eq_false_of_isBlank (blank c List.mem_cons_self)⟩

variable {words front back : List String}

/-- A phrase can lose its first words. -/
theorem occurs_phrase_of_append_right (occurs : (phrase (front ++ back)).Occurs text) (nonempty : back ≠ []) :
    (phrase back).Occurs text := by
  by_cases none : front = []
  · rwa [none, List.nil_append] at occurs
  obtain ⟨before, middle, after, rfl, ends, fits, starts⟩ := occurs
  rw [Fits, List.map_append] at fits
  obtain ⟨first, gap, second, rfl, _, apart, blank, spaced⟩ :=
    Spaced.exists_cut fits (by simpa using none) (by simpa using nonempty)
  refine ⟨before ++ first ++ gap, second, after, by simp, ?_, spaced, starts⟩
  exact endsOutsideWord_append_gap _ apart blank

/-- A phrase can lose its last words. -/
theorem occurs_phrase_of_append_left (occurs : (phrase (front ++ back)).Occurs text) (nonempty : front ≠ []) :
    (phrase front).Occurs text := by
  by_cases none : back = []
  · rwa [none, List.append_nil] at occurs
  obtain ⟨before, middle, after, rfl, ends, fits, starts⟩ := occurs
  rw [Fits, List.map_append] at fits
  obtain ⟨first, gap, second, rfl, spaced, apart, blank, _⟩ :=
    Spaced.exists_cut fits (by simpa using nonempty) (by simpa using none)
  refine ⟨before, first, gap ++ second ++ after, by simp, ends, spaced, .inr ?_⟩
  rw [List.append_assoc]
  exact startsOutsideWord_gap_append _ apart blank

theorem occurs_phrase_of_isInfix {part : List String} (occurs : (phrase words).Occurs text)
    (within : part <:+: words) (nonempty : part ≠ []) : (phrase part).Occurs text := by
  obtain ⟨front, back, rfl⟩ := within
  have opening := occurs_phrase_of_append_left occurs (List.append_ne_nil_of_right_ne_nil front nonempty)
  exact occurs_phrase_of_append_right opening nonempty

/-- Where a phrase is found, every part of it is found that has a word at all. A part of one word is found as
that word. -/
theorem phrase_part_givesAnswer (table : CategoryTable) (words part : List String) (text : String)
    (within : part <:+: words) (nonempty : part ≠ []) (compiles : (phrase words).regex.Compiles)
    (partCompiles : (phrase part).regex.Compiles) :
    ∃ found partFound, GivesAnswer table (phrase words) text found ∧
      GivesAnswer table (phrase part) text partFound ∧ (found = true → partFound = true) ∧
      ∀ single, part = [single] → GivesAnswer table (word single) text partFound := by
  obtain ⟨found, answer, splits⟩ := exists_givesAnswer table text compiles
  obtain ⟨partFound, partAnswer, partSplits⟩ := exists_givesAnswer table text partCompiles
  refine ⟨found, partFound, answer, partAnswer, ?_, ?_⟩
  · intro yes
    exact partSplits.mpr (occurs_phrase_of_isInfix (splits.mp yes) within nonempty)
  · rintro single rfl
    exact partAnswer.of_regex_eq (regex_eq_iff.mpr rfl)

/-- A word with a comma from the middle of a phrase, between two spaces and a no-break space. -/
theorem phrase_part_givesAnswer_comma :
    ["York,"] <:+: ["New", "York,", "NY"] ∧ ["York,"] ≠ [] ∧
    (phrase ["New", "York,", "NY"]).regex.Compiles ∧ (phrase ["York,"]).regex.Compiles ∧
    (phrase ["New", "York,", "NY"]).occursIn "in new  york,\u00A0ny." = .ok true ∧
    (word "York,").occursIn "in new  york,\u00A0ny." = .ok true := by
  have within : ["York,"] <:+: ["New", "York,", "NY"] := ⟨["New"], ["NY"], rfl⟩
  have nonempty : ["York,"] ≠ [] := List.cons_ne_nil _ _
  have compiles : (phrase ["New", "York,", "NY"]).regex.Compiles := by decide
  have partCompiles : (phrase ["York,"]).regex.Compiles := by decide
  have finds : (phrase ["New", "York,", "NY"]).occursIn "in new  york,\u00A0ny." = .ok true := by
    decide +kernel
  obtain ⟨found, partFound, ⟨search, _⟩, _, kept, single⟩ := phrase_part_givesAnswer .coarse
    ["New", "York,", "NY"] ["York,"] "in new  york,\u00A0ny." within nonempty compiles partCompiles
  rw [finds] at search
  cases search
  have yes : partFound = true := kept rfl
  exact ⟨within, nonempty, compiles, partCompiles, finds, yes ▸ (single "York," rfl).search⟩

end WordPattern

end FieldSearch
