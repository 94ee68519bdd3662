import FieldSearch.Proofs.Field.Grammar
import FieldSearch.Proofs.Sort.Reading
import FieldSearch.Proofs.Text.Trim

/-! # Sort specifications read back

Keys can be written as a specification exactly if there are any and every one of them is writable: a
comma in the name of a field would end the entry, and in front of an unreversed field white space
would be trimmed and a backslash would reverse it. What is read from a specification is always
writable, so writing it again loses nothing, whatever the settings were and are.
-/

namespace FieldSearch

open Text

/-- A target may be reversed or not, and stands for itself as an entry either way. -/
theorem SortTarget.read_render (settings : Settings) (target : SortTarget) :
    SortTarget.read settings target.render = .ok target := by
  cases target with
  | score => rfl
  | document => rfl
  | values field =>
    obtain ⟨c, rest, shape, notBracket⟩ := field.exists_head_name
    have unreserved {text : String} (bracket : text.toList.head? = some '<') : field.render ≠ text := by
      rintro rfl
      rw [field.toList_render, shape] at bracket
      exact notBracket (Option.some_inj.mp bracket)
    exact read_eq_values_iff.mpr ⟨unreserved (by decide), unreserved (by decide),
      Field.read_render settings field⟩

namespace SortKey

/-- The key stands for itself as an entry of a specification. -/
def Writable (key : SortKey) : Prop :=
  match key.target with
  | .score | .document => True
  | .values field => ',' ∉ field.name.toList ∧
      (key.reversed = false → ∀ c ∈ field.name.toList.head?, c ≠ '\\' ∧ isBlank c = false)

variable {settings : Settings} {key : SortKey}

private theorem toList_render (key : SortKey) : key.render.toList =
    (if key.reversed then ['\\'] else []) ++ key.target.render.toList := by
  unfold render
  cases key.reversed <;> simp

/-! ## Writable keys are read back -/

private theorem Writable.comma_notMem (writable : key.Writable) : ',' ∉ key.render.toList := by
  obtain ⟨target, reversed⟩ := key
  have inTarget : ',' ∉ target.render.toList := by
    cases target with
    | score => decide
    | document => decide
    | values field =>
      have inType : ',' ∉ field.type.name.toList := by cases field.type <;> decide
      simp [SortTarget.render, field.toList_render, writable.1, inType]
  rw [toList_render]
  cases reversed <;> simp [inTarget]

/-- A target does not begin with anything that an unreversed entry would lose. -/
private theorem Writable.head_target (writable : key.Writable) (forward : key.reversed = false) :
    ∃ c rest, key.target.render.toList = c :: rest ∧ c ≠ '\\' ∧ isBlank c = false := by
  obtain ⟨target, reversed⟩ := key
  cases target with
  | score =>
    have shape : "<score>".toList = '<' :: "score>".toList := by decide
    exact ⟨_, _, shape, by decide, by decide⟩
  | document =>
    have shape : "<doc>".toList = '<' :: "doc>".toList := by decide
    exact ⟨_, _, shape, by decide, by decide⟩
  | values field =>
    obtain ⟨c, rest, shape, _⟩ := field.exists_head_name
    have written : field.render.toList = c :: (rest ++ '<' :: (field.type.name.toList ++ ['>'])) := by
      rw [field.toList_render, shape, List.cons_append]
    exact ⟨c, _, written, writable.2 forward c (by rw [shape]; rfl)⟩

private theorem getLast?_target (target : SortTarget) : target.render.toList.getLast? = some '>' := by
  cases target with
  | score => decide
  | document => decide
  | values field =>
    have shape : field.render.toList = (field.name.toList ++ '<' :: field.type.name.toList) ++ ['>'] := by
      simp [field.toList_render]
    rw [SortTarget.render, shape, List.getLast?_concat]

private theorem target_ne_nil (target : SortTarget) : target.render.toList ≠ [] := by
  intro empty
  have last := getLast?_target target
  rw [empty] at last
  cases last

private theorem Writable.unpadded (writable : key.Writable) : Unpadded key.render.toList := by
  have last : key.render.toList.getLast? = some '>' := by
    rw [toList_render, List.getLast?_append, getLast?_target]
    rfl
  constructor
  · intro c first
    rw [toList_render] at first
    cases reversed : key.reversed with
    | true =>
      simp only [reversed, ↓reduceIte, List.cons_append, List.head?_cons] at first
      obtain rfl := Option.some_inj.mp first
      decide
    | false =>
      obtain ⟨d, rest, shape, _, notBlank⟩ := writable.head_target reversed
      simp only [reversed, shape] at first
      obtain rfl := Option.some_inj.mp first
      exact notBlank
  · intro c final
    rw [last] at final
    obtain rfl := Option.some_inj.mp final
    decide

private theorem Writable.splitReversed (writable : key.Writable) :
    splitReversed key.render.toList = (key.reversed, key.target.render.toList) := by
  rw [toList_render]
  cases reversed : key.reversed with
  | true => rfl
  | false =>
    obtain ⟨c, rest, shape, notBackslash, _⟩ := writable.head_target reversed
    simp [shape, SortKey.splitReversed, notBackslash]

theorem Writable.read_render (writable : key.Writable) (settings : Settings) :
    read settings key.render = .ok key := by
  refine read_eq_ok_iff.mpr ⟨key.target.render.toList, ?_, target_ne_nil _, ?_⟩
  · rw [trim_eq_self_iff.mpr writable.unpadded, writable.splitReversed]
  · rw [String.ofList_toList, SortTarget.read_render]

/-- Every entry of a specification is read as the key it was written for. -/
theorem readAll_renderAll {keys : List SortKey} (nonempty : keys ≠ [])
    (writable : ∀ key ∈ keys, key.Writable) (settings : Settings) :
    readAll settings (renderAll keys) = .ok keys := by
  have comma : ",".toList = [','] := by decide
  have entries : (renderAll keys).toList.splitOn ',' = keys.map (·.render.toList) := by
    rw [renderAll, String.toList_intercalate, comma, List.splitOn_intercalate]
    · rw [List.map_map]
      rfl
    · simp only [List.map_map, List.mem_map]
      rintro _ ⟨key, member, rfl⟩
      exact (writable key member).comma_notMem
    · simpa using nonempty
  rw [readAll_eq_ok_iff, entries, List.forall₂_map_left_iff]
  apply List.forall₂_same.mpr
  intro key member
  rw [String.ofList_toList]
  exact (writable key member).read_render settings

/-! ## Keys that were read are writable -/

/-- What is read is writable: its entry had no comma, no white space around it, and lost the backslash
that it began with if it began with one. -/
theorem writable_of_read {entry : List Char} (success : read settings (String.ofList entry) = .ok key)
    (comma : ',' ∉ entry) : key.Writable := by
  obtain ⟨target, reversed⟩ := key
  cases target with
  | score => trivial
  | document => trivial
  | values field =>
    obtain ⟨written, split, _, success⟩ := read_eq_ok_iff.mp success
    obtain ⟨_, _, success⟩ := SortTarget.read_eq_values_iff.mp success
    have named : field.name.toList <+: written := by
      simpa using Field.name_prefix_of_read success
    rw [String.toList_ofList, splitReversed_eq_iff] at split
    have kept : written <:+: entry := by
      refine List.IsInfix.trans ?_ (trim_isInfix entry)
      cases reversed with
      | true => exact split ▸ (List.suffix_cons '\\' written).isInfix
      | false => exact split.1 ▸ List.infix_rfl
    refine ⟨fun member => comma (kept.subset (named.subset member)), ?_⟩
    rintro rfl c first
    obtain ⟨rfl, notBackslash⟩ := split
    have head : c ∈ (trim entry).head? := by
      obtain ⟨rest, shape⟩ := named
      rw [← shape]
      exact List.mem_head?_append_of_mem_head? first
    exact ⟨fun same => notBackslash (same ▸ head), (trim_unpadded entry).1 c head⟩

theorem writable_of_readAll {spec : String} {keys : List SortKey}
    (success : readAll settings spec = .ok keys) : keys ≠ [] ∧ ∀ key ∈ keys, key.Writable := by
  have entries := readAll_eq_ok_iff.mp success
  constructor
  · rintro rfl
    exact List.splitOn_ne_nil _ _ (List.forall₂_nil_right_iff.mp entries)
  · have commas : ∀ entry ∈ spec.toList.splitOn ',', ',' ∉ entry := fun _ => notMem_of_mem_splitOn
    clear success
    generalize spec.toList.splitOn ',' = parts at entries commas
    induction entries with
    | nil => simp
    | cons read _ ih =>
      obtain ⟨first, rest⟩ := List.forall_mem_cons.mp commas
      exact List.forall_mem_cons.mpr ⟨writable_of_read read first, ih rest⟩

/-- Keys are read back from their specification exactly if there are any and all are writable. All keys
that are ever read are so, and are read back even under other settings. -/
theorem readAll_renderAll_iff (settings : Settings) (keys : List SortKey) :
    (readAll settings (renderAll keys) = .ok keys ↔ keys ≠ [] ∧ ∀ key ∈ keys, key.Writable) ∧
    ∀ former spec, readAll former spec = .ok keys →
      (keys ≠ [] ∧ ∀ key ∈ keys, key.Writable) ∧ readAll settings (renderAll keys) = .ok keys := by
  refine ⟨⟨writable_of_readAll, fun written => readAll_renderAll written.1 written.2 settings⟩, ?_⟩
  intro former spec success
  have written := writable_of_readAll success
  exact ⟨written, readAll_renderAll written.1 written.2 settings⟩

/-- Behind a backslash a name may begin with white space, and it keeps its default type. -/
theorem readAll_renderAll_of_read :
    let keys : List SortKey := [⟨.values ⟨" a>b", .date, by decide, by decide⟩, true⟩, ⟨.score, false⟩]
    readAll { defaultType := .date } "\\ a>b , <score>" = .ok keys ∧
      readAll {} (renderAll keys) = .ok keys := by
  have success : readAll { defaultType := .date } "\\ a>b , <score>" =
      .ok [⟨.values ⟨" a>b", .date, by decide, by decide⟩, true⟩, ⟨.score, false⟩] := by
    decide
  exact ⟨success, ((readAll_renderAll_iff {} _).2 _ _ success).2⟩

end SortKey

end FieldSearch
