import FieldSearch.Proofs.Text.Run
import FieldSearch.Text.Blank
import Mathlib.Data.List.DropRight
import Mathlib.Data.List.Infix

/-! # Trimmed texts

Trimming leaves a part of the text with no white space around it, and leaves a text alone exactly if
there is none to take away.
-/

namespace FieldSearch.Text

/-- No white space stands around the text. -/
def Unpadded (text : List Char) : Prop :=
  (∀ c ∈ text.head?, isBlank c = false) ∧ ∀ c ∈ text.getLast?, isBlank c = false

theorem trim_isInfix (text : List Char) : trim text <:+: text := by
  have kept := List.rdropWhile_prefix isBlank (trimStart text)
  exact kept.isInfix.trans (List.dropWhile_suffix _).isInfix

/-- What trimming takes away from the two sides of a text is white space. -/
theorem exists_append_trim (text : List Char) : ∃ front back, text = front ++ trim text ++ back ∧
    (∀ c ∈ front, isBlank c = true) ∧ ∀ c ∈ back, isBlank c = true := by
  have start : text.takeWhile isBlank ++ trimStart text = text := List.takeWhile_append_dropWhile
  have stop : trim text ++ (trimStart text).rtakeWhile isBlank = trimStart text :=
    List.rdropWhile_append_rtakeWhile
  refine ⟨text.takeWhile isBlank, (trimStart text).rtakeWhile isBlank, ?_, ?_, ?_⟩
  · rw [List.append_assoc, stop, start]
  · exact fun c member => List.mem_takeWhile_imp member
  · exact fun c member => List.mem_rtakeWhile_imp member

private theorem head?_trimStart (text : List Char) : ∀ c ∈ (trimStart text).head?, isBlank c = false :=
  head?_dropWhile_stop isBlank text

private theorem getLast?_trimEnd (text : List Char) : ∀ c ∈ (trimEnd text).getLast?, isBlank c = false := by
  intro c last
  rw [trimEnd, List.getLast?_reverse] at last
  exact head?_trimStart text.reverse c last

theorem trim_unpadded (text : List Char) : Unpadded (trim text) := by
  refine ⟨?_, getLast?_trimEnd _⟩
  intro c first
  obtain ⟨rest, shape⟩ := List.rdropWhile_prefix isBlank (trimStart text)
  apply head?_trimStart text c
  rw [← shape]
  exact List.mem_head?_append_of_mem_head? first

/-- Trimming changes nothing exactly if there is no white space around the text. -/
theorem trim_eq_self_iff {text : List Char} : trim text = text ↔ Unpadded text := by
  constructor
  · intro same
    exact same ▸ trim_unpadded text
  · rintro ⟨first, last⟩
    have start : trimStart text = text := by
      cases text with
      | nil => rfl
      | cons c rest => exact List.dropWhile_cons_of_neg (by simpa using first c rfl)
    have stop : trimEnd text = text := by
      apply List.rdropWhile_eq_self_iff.mpr
      intro nonempty
      simpa using last _ (List.getLast?_eq_some_getLast nonempty)
    rw [trim, start, stop]

theorem trimStart_append {blanks rest : List Char} (blank : ∀ c ∈ blanks, isBlank c = true)
    (stops : ∀ c ∈ rest.head?, isBlank c = false) : trimStart (blanks ++ rest) = rest := by
  rw [trimStart, dropWhile_append_stop blank stops]

theorem trimEnd_append {text blanks : List Char} (blank : ∀ c ∈ blanks, isBlank c = true)
    (stops : ∀ c ∈ text.getLast?, isBlank c = false) : trimEnd (text ++ blanks) = text := by
  have reversed : ∀ c ∈ blanks.reverse, isBlank c = true := fun c member =>
    blank c (List.mem_reverse.mp member)
  have first : ∀ c ∈ text.reverse.head?, isBlank c = false := by
    rwa [List.head?_reverse]
  change (trimStart (text ++ blanks).reverse).reverse = text
  rw [List.reverse_append, trimStart_append reversed first, List.reverse_reverse]

/-- White space around a text is trimmed, and no more. -/
theorem trim_append {front body back : List Char} (before : ∀ c ∈ front, isBlank c = true)
    (behind : ∀ c ∈ back, isBlank c = true) (nonempty : body ≠ []) (unpadded : Unpadded body) :
    trim (front ++ body ++ back) = body := by
  have first : ∀ c ∈ (body ++ back).head?, isBlank c = false := by
    rw [List.head?_append_of_ne_nil _ nonempty]
    exact unpadded.1
  rw [trim, List.append_assoc, trimStart_append before first, trimEnd_append behind unpadded.2]

/-- White space has no case. -/
theorem toUpper_of_isBlank {c : Char} (blank : isBlank c = true) : c.toUpper = c := by
  unfold Char.toUpper
  split
  · rename_i lower
    have low : 97 ≤ c.toNat := lower.1
    have high : c.toNat ≤ 122 := lower.2
    obtain ⟨range, member, above, below⟩ := inRanges_iff.mp blank
    simp only [blankRanges, List.mem_cons, List.not_mem_nil, or_false] at member
    rcases member with rfl | rfl | rfl | rfl | rfl | rfl | rfl | rfl | rfl | rfl <;> omega
  · rfl

end FieldSearch.Text
