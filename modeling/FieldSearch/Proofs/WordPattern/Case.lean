import FieldSearch.Proofs.WordPattern.Occurrence

/-! # Case in patterns and in texts

Whether a pattern occurs in a text does not depend on the case of the letters in either of them. Case changes
neither what a letter stands for nor where words and white space are, and wildcards have no case. So the
text splits around the pattern at the same places, however its letters are written.
-/

namespace FieldSearch

open Text Regex

namespace WordPattern

/-- The letters of the pattern are written in another case, and nothing else is changed. -/
inductive Recased : WordPattern → WordPattern → Prop
  | word {spelling other : String} : SameLetters spelling.toList other.toList →
      Recased (.word spelling) (.word other)
  | phrase {words others : List String} :
      List.Forall₂ (fun word other => SameLetters word.toList other.toList) words others →
      Recased (.phrase words) (.phrase others)
  | beginning {stem other : String} : SameLetters stem.toList other.toList →
      Recased (.beginning stem) (.beginning other)
  | glob {pattern other : String} : SameLetters pattern.toList other.toList →
      Recased (.glob pattern) (.glob other)

/-! ## Letters -/

section SameLetters

variable {text written front back : List Char}

theorem SameLetters.symm (same : SameLetters text written) : SameLetters written text :=
  List.Forall₂.flip (same.imp fun _ _ => sameLetter_symm)

theorem SameLetters.trans {again : List Char} (same : SameLetters text written)
    (next : SameLetters written again) : SameLetters text again := by
  induction same generalizing again with
  | nil => exact next
  | cons letter _ ih =>
    rcases next with _ | ⟨nextLetter, next⟩
    exact .cons (sameLetter_trans letter nextLetter) (ih next)

/-- The parts of a text keep their places. -/
theorem SameLetters.exists_append (same : SameLetters (front ++ back) written) :
    ∃ first second, written = first ++ second ∧ SameLetters front first ∧ SameLetters back second := by
  refine ⟨written.take front.length, written.drop front.length,
    (List.take_append_drop front.length written).symm, ?_, ?_⟩
  · simpa [SameLetters] using List.forall₂_take front.length same
  · simpa [SameLetters] using List.forall₂_drop front.length same

/-- What does not depend on the case of letters holds of both texts or of neither. -/
theorem SameLetters.iff_of_kept {holds : List Char → Prop}
    (kept : ∀ {text written}, holds text → SameLetters text written → holds written)
    (same : SameLetters text written) : holds text ↔ holds written :=
  ⟨fun here => kept here same, fun there => kept there same.symm⟩

/-- Characters stay in a class that does not tell the cases of a letter apart. -/
theorem SameLetters.forall_mem {inClass : Char → Bool}
    (closed : ∀ {c d}, sameLetter c d = true → inClass c = inClass d) (same : SameLetters text written)
    (inside : ∀ c ∈ text, inClass c = true) : ∀ c ∈ written, inClass c = true := by
  induction same with
  | nil => exact inside
  | cons letter _ ih =>
    obtain ⟨first, rest⟩ := List.forall_mem_cons.mp inside
    exact List.forall_mem_cons.mpr ⟨closed letter ▸ first, ih rest⟩

/-- Wildcards have no case. -/
theorem eq_of_sameLetter_of_isWildcard {c d : Char} (wildcard : isWildcard c = true)
    (same : sameLetter c d = true) : d = c := by
  obtain rfl | rfl : c = '*' ∨ c = '?' := by simpa [isWildcard] using wildcard
  · exact (eq_of_sameLetter (by decide +kernel) same).symm
  · exact (eq_of_sameLetter (by decide +kernel) same).symm

end SameLetters

/-! ## What a pattern stands for -/

variable {text written : List Char} {pattern other : WordPattern}

theorem Spaced.recased {words others : List (List Char)} (spaced : Spaced words text)
    (recased : List.Forall₂ SameLetters words others) (same : SameLetters text written) :
    Spaced others written := by
  -- The words and gaps of the other text are as long as those of this one, so they are cut alike.
  induction spaced generalizing others written with
  | none =>
    cases recased
    cases same
    exact .none
  | last letters =>
    rcases recased with _ | ⟨word, rest⟩
    cases rest
    exact .last (word.symm.trans (letters.trans same))
  | more letters nonempty blank _ ih =>
    rcases recased with _ | ⟨word, rest⟩
    obtain ⟨both, after, rfl, same, behind⟩ := same.exists_append
    obtain ⟨first, gap, rfl, front, between⟩ := same.exists_append
    have spaced := ih rest behind
    rcases rest with _ | _
    refine .more (word.symm.trans (letters.trans front)) ?_ (between.forall_mem isBlank_eq_of_sameLetter blank)
      spaced
    rintro rfl
    cases between
    exact nonempty rfl

theorem FitsGlob.recased {glob again : List Char} (fits : FitsGlob glob text)
    (recased : SameLetters glob again) (same : SameLetters text written) : FitsGlob again written := by
  induction fits generalizing again written with
  | nil =>
    cases recased
    cases same
    exact .nil
  | star inside _ ih =>
    rcases recased with _ | ⟨letter, recased⟩
    obtain rfl := eq_of_sameLetter_of_isWildcard rfl letter
    obtain ⟨run, rest, rfl, front, behind⟩ := same.exists_append
    exact .star (front.forall_mem isWordChar_eq_of_sameLetter inside) (ih recased behind)
  | question inside _ ih =>
    rcases recased with _ | ⟨letter, recased⟩
    obtain rfl := eq_of_sameLetter_of_isWildcard rfl letter
    rcases same with _ | ⟨front, behind⟩
    exact .question (isWordChar_eq_of_sameLetter front ▸ inside) (ih recased behind)
  | letter notStar notQuestion here _ ih =>
    rcases recased with _ | ⟨letter, recased⟩
    rcases same with _ | ⟨front, behind⟩
    -- A letter does not become a wildcard either.
    refine .letter ?_ ?_ (sameLetter_trans (sameLetter_symm letter) (sameLetter_trans here front))
      (ih recased behind)
    · rintro rfl
      exact notStar (eq_of_sameLetter_of_isWildcard rfl (sameLetter_symm letter))
    · rintro rfl
      exact notQuestion (eq_of_sameLetter_of_isWildcard rfl (sameLetter_symm letter))

theorem Recased.symm (recased : pattern.Recased other) : other.Recased pattern := by
  cases recased with
  | word same => exact .word same.symm
  | phrase same => exact .phrase (List.Forall₂.flip (same.imp fun _ _ => SameLetters.symm))
  | beginning same => exact .beginning same.symm
  | glob same => exact .glob same.symm

theorem Recased.isOpen_eq (recased : pattern.Recased other) : pattern.isOpen = other.isOpen := by
  cases recased <;> rfl

theorem Recased.fits (recased : pattern.Recased other) (same : SameLetters text written)
    (fits : pattern.Fits text) : other.Fits written := by
  cases recased with
  | word word => exact word.symm.trans (SameLetters.trans fits same)
  | @phrase words others phrase =>
    have recased : List.Forall₂ SameLetters (words.map String.toList) (others.map String.toList) := by
      rwa [List.forall₂_map_left_iff, List.forall₂_map_right_iff]
    exact Spaced.recased fits recased same
  | beginning stem => exact stem.symm.trans (SameLetters.trans fits same)
  | glob glob => exact FitsGlob.recased fits glob same

/-! ## Boundaries -/

theorem EndsOutsideWord.recased (ends : EndsOutsideWord text) (same : SameLetters text written) :
    EndsOutsideWord written := by
  rcases ends with rfl | ⟨front, c, rfl, outside⟩
  · cases same
    exact .inl rfl
  · obtain ⟨first, last, rfl, _, final⟩ := same.exists_append
    rcases final with _ | ⟨letter, rest⟩
    cases rest
    exact .inr ⟨first, _, rfl, isWordChar_eq_of_sameLetter letter ▸ outside⟩

theorem StartsOutsideWord.recased (starts : StartsOutsideWord text) (same : SameLetters text written) :
    StartsOutsideWord written := by
  rcases starts with rfl | ⟨c, rest, rfl, outside⟩
  · cases same
    exact .inl rfl
  · rcases same with _ | ⟨letter, _⟩
    exact .inr ⟨_, _, rfl, isWordChar_eq_of_sameLetter letter ▸ outside⟩

/-! ## Occurrence -/

theorem Occurs.recased (occurs : pattern.Occurs text) (recased : pattern.Recased other)
    (same : SameLetters text written) : other.Occurs written := by
  obtain ⟨before, middle, after, rfl, ends, fits, starts⟩ := occurs
  obtain ⟨both, last, rfl, same, behind⟩ := same.exists_append
  obtain ⟨first, between, rfl, front, inside⟩ := same.exists_append
  refine ⟨first, between, last, rfl, ends.recased front, recased.fits inside fits, ?_⟩
  rw [← recased.isOpen_eq]
  exact starts.imp_right fun starts => starts.recased behind

/-- A pattern and a text give the same answer as the same pattern and the same text in another case, and so do
the expressions that the patterns' regular expressions read back as, which ignore case in their classes
as in their letters. The boundaries of words are at the same places in both texts, and from place to
place wildcards stand for the same parts. -/
theorem occursIn_eq_of_recased (table : CategoryTable) (pattern other : WordPattern) (text written : String)
    (recased : pattern.Recased other) (same : SameLetters text.toList written.toList)
    (compiles : pattern.regex.Compiles) (recompiles : other.regex.Compiles) :
    (∃ compiled recompiled found, read? pattern.regex.source.toList = some compiled ∧
      read? other.regex.source.toList = some recompiled ∧
      pattern.occursIn text = .ok found ∧ other.occursIn written = .ok found ∧
      (found = true ↔ compiled.OccursIn table text.toList) ∧
      (found = true ↔ recompiled.OccursIn table written.toList)) ∧
    ∀ place length, let part := (text.toList.drop place).take length
      let again := (written.toList.drop place).take length
      (EndsOutsideWord part ↔ EndsOutsideWord again) ∧ (StartsOutsideWord part ↔ StartsOutsideWord again) ∧
      (FitsGlob ['*'] part ↔ FitsGlob ['*'] again) ∧ (FitsGlob ['?'] part ↔ FitsGlob ['?'] again) := by
  constructor
  · have answer : pattern.regex.occursIn text.toList = other.regex.occursIn written.toList := by
      rw [Bool.eq_iff_iff, regex_occursIn_iff, regex_occursIn_iff]
      exact ⟨fun occurs => occurs.recased recased same, fun occurs => occurs.recased recased.symm same.symm⟩
    refine ⟨_, _, _, read?_source _, read?_source _, if_pos compiles, ?_, occursIn_iff_expression table _ _, ?_⟩
    · rw [answer]
      exact if_pos recompiles
    · rw [answer]
      exact occursIn_iff_expression table _ _
  · intro place length
    have kept : SameLetters _ _ := List.forall₂_take length (List.forall₂_drop place same)
    exact ⟨kept.iff_of_kept EndsOutsideWord.recased, kept.iff_of_kept StartsOutsideWord.recased,
      kept.iff_of_kept fun fits => fits.recased (sameLetters_refl _),
      kept.iff_of_kept fun fits => fits.recased (sameLetters_refl _)⟩

/-- The long s is a case of `s`, and the sign of the unit kelvin is one of `k`. -/
theorem occursIn_eq_of_long_s :
    Recased (.glob "ſ?k*") (.glob "S?\u212A*") ∧
    SameLetters "ein ſAKura, so".toList "EIN SaKURA, ſO".toList ∧
    (glob "ſ?k*").regex.Compiles ∧ (glob "S?\u212A*").regex.Compiles ∧
    (glob "ſ?k*").occursIn "ein ſAKura, so" = .ok true ∧
    (glob "S?\u212A*").occursIn "EIN SaKURA, ſO" = .ok true := by
  have recased : Recased (.glob "ſ?k*") (.glob "S?\u212A*") := .glob (by unfold SameLetters; decide +kernel)
  have same : SameLetters "ein ſAKura, so".toList "EIN SaKURA, ſO".toList := by
    unfold SameLetters
    decide +kernel
  have compiles : (glob "ſ?k*").regex.Compiles := by decide
  have recompiles : (glob "S?\u212A*").regex.Compiles := by decide
  have finds : (glob "ſ?k*").occursIn "ein ſAKura, so" = .ok true := by decide +kernel
  obtain ⟨⟨_, _, found, _, _, answer, again, _⟩, _⟩ :=
    occursIn_eq_of_recased .coarse _ _ _ _ recased same compiles recompiles
  rw [finds] at answer
  cases answer
  exact ⟨recased, same, compiles, recompiles, finds, again⟩

end WordPattern

end FieldSearch
