import Mathlib.Data.List.TakeWhile

/-! # Runs of characters

A text begins with a run of characters of one kind. What follows the run is empty, or begins with a
character of another kind.
-/

namespace FieldSearch.Text

variable {inRun : Char → Bool} {run rest : List Char}

theorem head?_dropWhile_stop (inRun : Char → Bool) (text : List Char) :
    ∀ c ∈ (text.dropWhile inRun).head?, inRun c = false := by
  intro c first
  have stopped := List.head?_dropWhile_not inRun text
  rw [Option.mem_def.mp first] at stopped
  simpa using stopped

/-- Every text is cut behind its run. -/
theorem exists_run (inRun : Char → Bool) (text : List Char) : ∃ run rest, text = run ++ rest ∧
    (∀ c ∈ run, inRun c = true) ∧ ∀ c ∈ rest.head?, inRun c = false :=
  ⟨text.takeWhile inRun, text.dropWhile inRun, List.takeWhile_append_dropWhile.symm,
    fun _ member => List.mem_takeWhile_imp member, head?_dropWhile_stop inRun text⟩

/-- A run is taken up to the first character that does not belong to it. -/
theorem takeWhile_append_stop (inside : ∀ c ∈ run, inRun c = true)
    (stops : ∀ c ∈ rest.head?, inRun c = false) : (run ++ rest).takeWhile inRun = run := by
  rw [List.takeWhile_append_of_pos inside]
  cases rest with
  | nil => simp
  | cons c rest => simp [stops c rfl]

theorem dropWhile_append_stop (inside : ∀ c ∈ run, inRun c = true)
    (stops : ∀ c ∈ rest.head?, inRun c = false) : (run ++ rest).dropWhile inRun = rest := by
  have split := List.takeWhile_append_dropWhile (p := inRun) (l := run ++ rest)
  rw [takeWhile_append_stop inside stops] at split
  exact List.append_cancel_left split

end FieldSearch.Text
