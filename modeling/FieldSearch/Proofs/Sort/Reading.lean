import FieldSearch.Proofs.Fault.Sequence
import FieldSearch.Sort

/-! # When a sort specification can be read

Reading succeeds exactly if every entry between two commas can be read, and gives one key for each
entry in their order. An entry can be read exactly if something is left of it without the white space
around it and without one backslash, and that is a target.
-/

namespace FieldSearch

open Text

theorem SortTarget.read_eq_values_iff {settings : Settings} {text : String} {field : Field} :
    SortTarget.read settings text = .ok (.values field) ↔
      text ≠ "<score>" ∧ text ≠ "<doc>" ∧ Field.read settings text = .ok field := by
  unfold SortTarget.read
  by_cases score : text = "<score>"
  · simp [score]
  by_cases document : text = "<doc>"
  · simp [document]
  rw [if_neg score, if_neg document, bind_eq_ok_iff]
  simp [score, document, pure_eq_ok_iff]

/-- The separator stands in no part of the split. -/
theorem notMem_of_mem_splitOn {separator : Char} {text part : List Char}
    (member : part ∈ text.splitOn separator) : separator ∉ part := by
  induction text generalizing part with
  | nil =>
    obtain rfl := List.mem_singleton.mp member
    exact List.not_mem_nil
  | cons c text ih =>
    rw [List.splitOn_cons_eq_if_modifyHead] at member
    split at member
    · rcases List.mem_cons.mp member with rfl | member
      · exact List.not_mem_nil
      · exact ih member
    · rename_i other
      obtain ⟨first, rest, shape⟩ := List.exists_cons_of_ne_nil (List.splitOn_ne_nil separator text)
      rw [shape, List.modifyHead_cons] at member
      rw [shape] at ih
      rcases List.mem_cons.mp member with rfl | member
      · have inFirst := ih List.mem_cons_self
        simp only [List.mem_cons, not_or]
        exact ⟨fun same => other (by simp [same]), inFirst⟩
      · exact ih (List.mem_cons_of_mem _ member)

/-- There is one part more than there are separators. -/
theorem length_splitOn (separator : Char) (text : List Char) :
    (text.splitOn separator).length = text.count separator + 1 := by
  induction text with
  | nil => rfl
  | cons c text ih =>
    rw [List.splitOn_cons_eq_if_modifyHead, List.count_cons]
    split
    · rw [List.length_cons, ih]
    · rw [List.length_modifyHead, ih]

namespace SortKey

variable {settings : Settings}

/-- An entry is reversed exactly if it begins with a backslash. -/
theorem splitReversed_eq_iff {text target : List Char} {reversed : Bool} :
    splitReversed text = (reversed, target) ↔
      if reversed then text = '\\' :: target else text = target ∧ text.head? ≠ some '\\' := by
  unfold SortKey.splitReversed
  split
  · cases reversed <;> simp +contextual
  · rename_i notBackslash
    have first : text.head? ≠ some '\\' := by
      cases text with
      | nil => simp
      | cons c rest => rintro ⟨⟩; exact notBackslash rest rfl
    cases reversed with
    | true => simpa using notBackslash target
    | false => simp [first]

/-- An entry reads as a key exactly if what is left of it reads as the key's target. -/
theorem read_eq_ok_iff {entry : String} {key : SortKey} : read settings entry = .ok key ↔
    ∃ target, splitReversed (trim entry.toList) = (key.reversed, target) ∧ target ≠ [] ∧
      SortTarget.read settings (String.ofList target) = .ok key.target := by
  simp only [read]
  generalize splitReversed (trim entry.toList) = parts
  obtain ⟨reversed, target⟩ := parts
  by_cases empty : target = []
  · simp [empty]
  · rw [if_neg empty, bind_eq_ok_iff]
    constructor
    · rintro ⟨result, success, made⟩
      cases made
      exact ⟨target, rfl, empty, success⟩
    · rintro ⟨_, same, _, success⟩
      cases same
      exact ⟨key.target, success, rfl⟩

theorem readAll_eq_ok_iff {spec : String} {keys : List SortKey} : readAll settings spec = .ok keys ↔
    List.Forall₂ (fun entry key => read settings (String.ofList entry) = .ok key)
      (spec.toList.splitOn ',') keys := by
  have blamed (entry : List Char) (key : SortKey) :
      (read settings (String.ofList entry)).mapError (blame spec) = .ok key ↔
        read settings (String.ofList entry) = .ok key := by
    cases read settings (String.ofList entry) <;> simp [Except.mapError]
  simp only [readAll, mapM_eq_ok_iff, blamed]

end SortKey

end FieldSearch
