import FieldSearch.Proofs.Toml.Document
import FieldSearch.Settings.File

/-! # Settings survive their file

What is saved is loaded again as the same settings, whatever characters are in the open mark.
-/

namespace FieldSearch

open Text Toml

namespace Settings

variable {lines : List (String × String)}

/-! ## Files of lines -/

/-- The text of lines. -/
def renderLines (lines : List (String × String)) : List Char :=
  lines.flatMap fun (key, text) => renderLine key text

/-- The entries that lines give. -/
def lineEntries (lines : List (String × String)) : Entries :=
  lines.map fun (key, text) => (key, .string text)

/-- Lines for new keys add their entries in order. -/
theorem readLines_renderLines {draft : Draft} {count : Nat} (bare : ∀ line ∈ lines, IsBare line.1.toList)
    (distinct : (lines.map Prod.fst).Nodup) (top : draft.current = [])
    (fresh : ∀ line ∈ lines, draft.root.get? line.1 = none) (enough : lines.length < count) :
    draft.readLines count (renderLines lines) = some (draft.root ++ lineEntries lines) := by
  induction lines generalizing draft count with
  | nil =>
    obtain ⟨count, rfl⟩ := Nat.exists_eq_add_one_of_ne_zero (Nat.ne_of_gt enough)
    rw [lineEntries, List.map_nil, List.append_nil]
    rfl
  | cons line lines ih =>
    obtain ⟨key, text⟩ := line
    obtain ⟨count, rfl⟩ := Nat.exists_eq_add_one_of_ne_zero (Nat.ne_zero_of_lt enough)
    obtain ⟨first, bare⟩ := List.forall_mem_cons.mp bare
    obtain ⟨unset, fresh⟩ := List.forall_mem_cons.mp fresh
    obtain ⟨apart, distinct⟩ := List.nodup_cons.mp distinct
    have shape : renderLines ((key, text) :: lines) =
        key.toList ++ ' ' :: '=' :: ' ' :: (encode text.toList ++ '\n' :: renderLines lines) := by
      simp [renderLines, renderLine]
    have later : ∀ line ∈ lines, Entries.get? line.1 (draft.root ++ [(key, Item.string text)]) = none := by
      intro line member
      have differs : line.1 ≠ key := fun same => apart (List.mem_map.mpr ⟨line, member, same⟩)
      rw [Entries.get?_append_of_ne differs]
      exact fresh line member
    have onward := @ih ⟨draft.root ++ [(key, .string text)], draft.current⟩ count bare distinct top later
      (Nat.lt_of_succ_lt_succ enough)
    rw [shape, Draft.readLines_line count first top unset, onward]
    simp [lineEntries]

private theorem length_le_renderLines (lines : List (String × String)) :
    lines.length ≤ (renderLines lines).length := by
  induction lines with
  | nil => exact Nat.le_refl 0
  | cons line lines ih =>
    simp only [renderLines, renderLine, List.flatMap_cons, List.length_append, List.length_cons] at ih ⊢
    omega

/-- A file of lines for distinct keys without quotes is read as their entries. -/
theorem readDocument_renderLines (bare : ∀ line ∈ lines, IsBare line.1.toList)
    (distinct : (lines.map Prod.fst).Nodup) :
    readDocument (renderLines lines) = some (lineEntries lines) := by
  have noMark : (renderLines lines).head? ≠ some '\ufeff' := by
    cases lines with
    | nil => exact nofun
    | cons line lines =>
      obtain ⟨nonempty, inside⟩ := bare line List.mem_cons_self
      obtain ⟨c, others, shape⟩ := List.exists_cons_of_ne_nil nonempty
      have first : isBareKey c = true := inside c (shape ▸ List.mem_cons_self)
      have notMark : c ≠ '\ufeff' := ne_of_kind first (by decide)
      simpa [renderLines, renderLine, shape] using notMark
  have enough : lines.length < (renderLines lines).length + 1 :=
    Nat.lt_succ_of_le (length_le_renderLines lines)
  rw [readDocument, if_neg noMark]
  exact readLines_renderLines bare distinct rfl (fun _ _ => rfl) enough

/-! ## Settings -/

/-- The lines of the settings file. -/
def savedLines (settings : Settings) : List (String × String) :=
  [(typeKey, settings.defaultType.name), (openMarkKey, settings.openMark)]

theorem toList_render (settings : Settings) : settings.render.toList = renderLines settings.savedLines := by
  simp [render, renderLines, savedLines]

theorem ofEntries?_savedLines (settings : Settings) :
    ofEntries? (lineEntries settings.savedLines) = some settings := by
  have type : Datatype.ofItem? (.string settings.defaultType.name) = some settings.defaultType :=
    Datatype.ofName?_name settings.defaultType
  have typeEntry : (lineEntries settings.savedLines).get? typeKey =
      some (.string settings.defaultType.name) := rfl
  have markEntry : (lineEntries settings.savedLines).get? openMarkKey =
      some (.string settings.openMark) := rfl
  rw [ofEntries?, typeEntry, markEntry]
  simp only [type]
  rfl

theorem ofText_render (settings : Settings) : ofText settings.render = .ok settings := by
  have bare : ∀ line ∈ settings.savedLines, IsBare line.1.toList := by
    have type : IsBare typeKey.toList := ⟨by decide, List.all_eq_true.mp (by decide)⟩
    have mark : IsBare openMarkKey.toList := ⟨by decide, List.all_eq_true.mp (by decide)⟩
    exact List.forall_mem_cons.mpr ⟨type, List.forall_mem_singleton.mpr mark⟩
  have distinct : (settings.savedLines.map Prod.fst).Nodup := by
    change [typeKey, openMarkKey].Nodup
    decide
  rw [ofText, toList_render, readDocument_renderLines bare distinct, Option.bind_some, ofEntries?_savedLines]

theorem fromUTF8?_toUTF8 (text : String) : String.fromUTF8? text.toUTF8 = some text :=
  dif_pos text.isValidUTF8

theorem encode_name (type : Datatype) : encode type.name.toList = '"' :: type.name.toList ++ ['"'] := by
  cases type <;> decide

/-- Saving writes a line with the name of the datatype in quotes and one with the open mark, in a form that is
read as the mark. What is loaded from this file are the settings that were saved. -/
theorem ofFile_save (settings : Settings) :
    ∃ text written, settings.save true = .ok text ∧
      text.toList = "default_type = \"".toList ++ settings.defaultType.name.toList ++
        "\"\nopen_bound = ".toList ++ written ++ ['\n'] ∧
      readString written = some (settings.openMark.toList, []) ∧
      ofFile (.bytes text.toUTF8) = .ok settings := by
  refine ⟨settings.render, encode settings.openMark.toList, rfl, ?_, ?_, ?_⟩
  · rw [toList_render]
    simp [renderLines, savedLines, renderLine, typeKey, openMarkKey, encode_name]
  · have read := @readString_encode [] settings.openMark.toList nofun nofun
    rwa [List.append_nil] at read
  · rw [ofFile, fromUTF8?_toUTF8]
    exact ofText_render settings

end Settings

end FieldSearch
