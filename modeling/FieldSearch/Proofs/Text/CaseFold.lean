import FieldSearch.Text.Blank
import FieldSearch.Text.CaseFold
import FieldSearch.Text.WordChar

/-! # Classes closed under case

The two cases of a letter lie on the same side of every class of characters the library asks about:
both are characters of words or neither is, and likewise for white space. Folding moves whole runs
of code points, so it is enough that a class holds all of a run and of its image, or nothing of
either. `FoldRun.respects` checks that by one pass over the class for each of the two spans.
-/

namespace FieldSearch.Text

/-- One of the ranges, the first to end behind `first`, holds the whole span. -/
def includesSpan : List (Nat × Nat) → Nat → Nat → Bool
  | [], _, _ => false
  | range :: ranges, first, last =>
    match Nat.ble first range.2 with
    | true => Nat.ble range.1 first && Nat.ble last range.2
    | false => includesSpan ranges first last

/-- No range meets the span. -/
def missesSpan : List (Nat × Nat) → Nat → Nat → Bool
  | [], _, _ => true
  | range :: ranges, first, last =>
    match Nat.ble first range.2 with
    | true => Nat.blt last range.1 && missesSpan ranges first last
    | false => missesSpan ranges first last

/-- The class holds all of the run and of its image, or nothing of either. -/
def FoldRun.respects (ranges : List (Nat × Nat)) (run : FoldRun) : Bool :=
  let lastImage := run.image + (run.last - run.first)
  match includesSpan ranges run.first run.last with
  | true => includesSpan ranges run.image lastImage
  | false => missesSpan ranges run.first run.last && missesSpan ranges run.image lastImage

private theorem inRanges_of_includesSpan {ranges : List (Nat × Nat)} {first last code : Nat}
    (included : includesSpan ranges first last = true) (above : first ≤ code) (below : code ≤ last) :
    inRanges ranges code = true := by
  induction ranges with
  | nil => cases included
  | cons range ranges ih =>
    rw [includesSpan] at included
    split at included
    · simp only [Bool.and_eq_true, Nat.ble_eq] at included
      exact inRanges_iff.mpr ⟨range, List.mem_cons_self .., by omega, by omega⟩
    · obtain ⟨other, member, bounds⟩ := inRanges_iff.mp (ih included)
      exact inRanges_iff.mpr ⟨other, List.mem_cons_of_mem _ member, bounds⟩

theorem inRanges_of_missesSpan {ranges : List (Nat × Nat)} {first last code : Nat}
    (missed : missesSpan ranges first last = true) (above : first ≤ code) (below : code ≤ last) :
    inRanges ranges code = false := by
  rw [Bool.eq_false_iff, ne_eq, inRanges_iff]
  rintro ⟨range, member, low, high⟩
  induction ranges with
  | nil => cases member
  | cons other ranges ih =>
    rw [missesSpan] at missed
    rcases List.mem_cons.mp member with rfl | member
    · split at missed
      · simp only [Bool.and_eq_true, Nat.blt_eq] at missed
        omega
      · rename_i apart
        rw [← Bool.not_eq_true, Nat.ble_eq] at apart
        omega
    · split at missed
      · exact ih (Bool.and_eq_true_iff.mp missed).2 member
      · exact ih missed member

/-- Folding a code point does not move it across the border of a class that respects every run. -/
theorem inRanges_foldCode {ranges : List (Nat × Nat)}
    (respected : foldRuns.all (·.respects ranges) = true) (code : Nat) :
    inRanges ranges (foldCode code) = inRanges ranges code := by
  unfold foldCode
  split
  · rename_i run found
    have covered := List.find?_some found
    have kept := List.all_eq_true.mp respected run (List.mem_of_find?_eq_some found)
    simp only [FoldRun.covers, Bool.and_eq_true, decide_eq_true_eq] at covered
    obtain ⟨⟨above, below⟩, _⟩ := covered
    simp only [FoldRun.respects] at kept
    split at kept
    · rename_i included
      rw [inRanges_of_includesSpan included above below,
        inRanges_of_includesSpan kept (by omega) (by omega)]
    · obtain ⟨missed, imageMissed⟩ := Bool.and_eq_true_iff.mp kept
      rw [inRanges_of_missesSpan missed above below,
        inRanges_of_missesSpan imageMissed (by omega) (by omega)]
  · rfl

private theorem inRanges_eq_of_sameLetter {ranges : List (Nat × Nat)}
    (respected : foldRuns.all (·.respects ranges) = true) {c d : Char}
    (same : sameLetter c d = true) : inRanges ranges c.toNat = inRanges ranges d.toNat := by
  rw [← inRanges_foldCode respected c.toNat, sameLetter_iff.mp same, inRanges_foldCode respected]

/-- The two cases of a letter are both characters of words, or neither is. -/
theorem isWordChar_eq_of_sameLetter {c d : Char} (same : sameLetter c d = true) :
    isWordChar c = isWordChar d :=
  inRanges_eq_of_sameLetter (by decide +kernel) same

theorem isBlank_eq_of_sameLetter {c d : Char} (same : sameLetter c d = true) :
    isBlank c = isBlank d :=
  inRanges_eq_of_sameLetter (by decide +kernel) same

@[simp]
theorem sameLetter_refl (c : Char) : sameLetter c c = true :=
  sameLetter_iff.mpr rfl

theorem sameLetter_symm {c d : Char} (same : sameLetter c d = true) : sameLetter d c = true :=
  sameLetter_iff.mpr (sameLetter_iff.mp same).symm

theorem sameLetter_trans {c d e : Char} (same : sameLetter c d = true) (again : sameLetter d e = true) :
    sameLetter c e = true :=
  sameLetter_iff.mpr ((sameLetter_iff.mp same).trans (sameLetter_iff.mp again))

/-- A character that the runs leave alone has one case only. -/
theorem eq_of_sameLetter {c d : Char} (respected : foldRuns.all (·.respects [(c.toNat, c.toNat)]) = true)
    (same : sameLetter c d = true) : c = d := by
  have inside : inRanges [(c.toNat, c.toNat)] d.toNat = true := by
    rw [← inRanges_eq_of_sameLetter respected same]
    simp [inRanges]
  simp only [inRanges_iff, List.mem_singleton, exists_eq_left] at inside
  exact Char.toNat_inj.mp (Nat.le_antisymm inside.1 inside.2)

end FieldSearch.Text
