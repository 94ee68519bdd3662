import Mathlib.Data.List.Forall2

/-! # Steps that may fail

Steps in a row succeed exactly if each of them does, and the first one to fail decides the fault.
-/

namespace FieldSearch

variable {α β ε δ : Type}

theorem bind_eq_ok_iff {value : Except ε α} {next : α → Except ε β} {result : β} :
    value >>= next = .ok result ↔ ∃ produced, value = .ok produced ∧ next produced = .ok result := by
  cases value <;> simp [bind, Except.bind]

theorem bind_eq_error_iff {value : Except ε α} {next : α → Except ε β} {fault : ε} :
    value >>= next = .error fault ↔
      value = .error fault ∨ ∃ produced, value = .ok produced ∧ next produced = .error fault := by
  cases value <;> simp [bind, Except.bind]

theorem pure_eq_ok_iff {value result : α} : (pure value : Except ε α) = .ok result ↔ value = result := by
  simp [pure, Except.pure]

theorem mapM_eq_ok_iff {f : α → Except ε β} {xs : List α} {ys : List β} :
    xs.mapM f = .ok ys ↔ List.Forall₂ (fun x y => f x = .ok y) xs ys := by
  induction xs generalizing ys with
  | nil => rw [List.mapM_nil, pure_eq_ok_iff, List.forall₂_nil_left_iff, eq_comm]
  | cons x xs ih =>
    simp only [List.mapM_cons, bind_eq_ok_iff, pure_eq_ok_iff, ih, List.forall₂_cons_left_iff]
    simp [eq_comm]

/-- The fault of a row is that of its first step to fail. -/
theorem mapM_eq_error_iff {f : α → Except ε β} {xs : List α} {fault : ε} :
    xs.mapM f = .error fault ↔ ∃ before x behind, xs = before ++ x :: behind ∧
      (∀ earlier ∈ before, ∃ y, f earlier = .ok y) ∧ f x = .error fault := by
  induction xs with
  | nil => simp [pure, Except.pure]
  | cons x xs ih =>
    rw [List.mapM_cons, bind_eq_error_iff]
    constructor
    · rintro (first | ⟨y, first, rest⟩)
      · exact ⟨[], x, xs, rfl, by simp, first⟩
      · rcases bind_eq_error_iff.mp rest with later | ⟨_, _, done⟩
        · obtain ⟨before, z, behind, rfl, succeed, fails⟩ := ih.mp later
          exact ⟨x :: before, z, behind, rfl, List.forall_mem_cons.mpr ⟨⟨y, first⟩, succeed⟩, fails⟩
        · cases done
    · rintro ⟨before, z, behind, split, succeed, fails⟩
      cases before with
      | nil =>
        obtain ⟨rfl, rfl⟩ := List.cons_eq_cons.mp split
        exact .inl fails
      | cons w before =>
        obtain ⟨rfl, rfl⟩ := List.cons_eq_cons.mp split
        obtain ⟨⟨y, first⟩, succeed⟩ := List.forall_mem_cons.mp succeed
        have later := ih.mpr ⟨before, z, behind, rfl, succeed, fails⟩
        exact .inr ⟨y, first, bind_eq_error_iff.mpr (.inl later)⟩

/-! ## Faults put in other words -/

theorem mapError_eq_ok_iff {value : Except ε α} {reword : ε → δ} {result : α} :
    value.mapError reword = .ok result ↔ value = .ok result := by
  cases value <;> simp [Except.mapError]

theorem mapError_eq_error_iff {value : Except ε α} {reword : ε → δ} {fault : δ} :
    value.mapError reword = .error fault ↔ ∃ cause, value = .error cause ∧ reword cause = fault := by
  cases value <;> simp [Except.mapError]

/-- Only one fault comes out of a row, so it may as well be put in other words at the end. -/
theorem mapM_mapError (f : α → Except ε β) (reword : ε → δ) (xs : List α) :
    (xs.mapM fun x => (f x).mapError reword) = (xs.mapM f).mapError reword := by
  induction xs with
  | nil => rfl
  | cons x xs ih =>
    rw [List.mapM_cons, List.mapM_cons, ih]
    cases f x with
    | error cause => rfl
    | ok y => cases xs.mapM f <;> rfl

end FieldSearch
