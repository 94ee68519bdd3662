import FieldSearch.Text.FoldRuns

/-! # Letters up to case

Two characters are the same letter when their simple case foldings agree. Simple folding maps one
character to one character: `ß` and `ẞ` are the same letter, `ß` and `ss` are not.
-/

namespace FieldSearch.Text

/-- The run moves this code point. -/
def FoldRun.covers (run : FoldRun) (code : Nat) : Bool :=
  run.first ≤ code && code ≤ run.last && (code - run.first) % run.stride == 0

/-- The simple case folding of a code point: itself, unless a run moves it. -/
def foldCode (code : Nat) : Nat :=
  match foldRuns.find? (·.covers code) with
  | some run => run.image + (code - run.first)
  | none => code

/-- The two characters differ in case at most. -/
def sameLetter (c d : Char) : Bool :=
  foldCode c.toNat == foldCode d.toNat

theorem sameLetter_iff {c d : Char} : sameLetter c d ↔ foldCode c.toNat = foldCode d.toNat := by
  simp [sameLetter]

end FieldSearch.Text
