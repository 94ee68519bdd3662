import FieldSearch.Toml.Document
import FieldSearch.Proofs.Text.Reading
import FieldSearch.Proofs.Toml.Quoted

/-! # Documents of plain lines

A line that gives a string to a key of letters, digits and dashes adds one entry to the document, if the
key is not there yet. A document of such lines is read line by line.
-/

namespace FieldSearch.Toml

open Text

variable {c : Char} {key rest : List Char} {draft : Draft}

/-- The key is written without quotes. -/
def IsBare (key : List Char) : Prop :=
  key ≠ [] ∧ ∀ c ∈ key, isBareKey c = true

/-! ## Keys -/

theorem isSpace_eq_false_of_isBareKey (bare : isBareKey c = true) : isSpace c = false := by
  have notSpace : c ≠ ' ' := ne_of_kind bare (by decide)
  have notTab : c ≠ '\t' := ne_of_kind bare (by decide)
  simp [isSpace, notSpace, notTab]

theorem skipSpaces_cons (other : isSpace c = false) : skipSpaces (c :: rest) = c :: rest :=
  List.dropWhile_cons_of_neg (by simpa using other)

theorem skipLayout_bare (bare : isBareKey c = true) : skipLayout false (c :: rest) = c :: rest := by
  have notComment : c ≠ '#' := ne_of_kind bare (by decide)
  have notSpace := isSpace_eq_false_of_isBareKey bare
  rw [skipLayout]
  · simp [notComment, notSpace]
  · exact ne_of_kind bare (by decide)
  · rintro behind rfl
    exact absurd bare (by decide)

theorem readKeyPart_append (bare : IsBare key) (stops : ∀ c ∈ rest.head?, isBareKey c = false) :
    readKeyPart (key ++ rest) = some (String.ofList key, rest) := by
  have taken := takeWhile_append_stop bare.2 stops
  have left := dropWhile_append_stop bare.2 stops
  obtain ⟨nonempty, inside⟩ := bare
  obtain ⟨c, others, rfl⟩ := List.exists_cons_of_ne_nil nonempty
  have first := inside c List.mem_cons_self
  rw [List.cons_append] at taken left ⊢
  rw [readKeyPart, taken, left]
  · rfl
  · rintro behind ⟨⟩
    exact absurd first (by decide)
  · rintro behind ⟨⟩
    exact absurd first (by decide)

/-- A key with one part, up to the sign behind it. -/
theorem readKey_append (bare : IsBare key) (parts : Nat) (rest : List Char) :
    readKey (parts + 1) (key ++ ' ' :: '=' :: rest) = some (([], String.ofList key), '=' :: rest) := by
  have part := @readKeyPart_append key (' ' :: '=' :: rest) bare (by rintro _ ⟨⟩; decide)
  have start : skipSpaces (key ++ ' ' :: '=' :: rest) = key ++ ' ' :: '=' :: rest := by
    obtain ⟨c, others, rfl⟩ := List.exists_cons_of_ne_nil bare.1
    exact skipSpaces_cons (isSpace_eq_false_of_isBareKey (bare.2 c List.mem_cons_self))
  have behind : skipSpaces (' ' :: '=' :: rest) = '=' :: rest := rfl
  rw [readKey, start, part]
  simp only [Option.bind_eq_bind, Option.bind_some, behind]
  rfl

/-! ## Lines -/

theorem readValue_encode (steps depth : Nat) (text : List Char) (noBasic : ∀ behind, rest ≠ '"' :: behind)
    (noLiteral : ∀ behind, rest ≠ '\'' :: behind) :
    readValue (steps + 1) depth (encode text ++ rest) = some (.string (String.ofList text), rest) := by
  obtain ⟨quote, body, shape, quotes⟩ := exists_cons_encode text
  have read := readString_encode text noBasic noLiteral
  rw [shape, List.cons_append] at read ⊢
  rcases quotes with rfl | rfl
  · rw [readValue, read]
    rfl
  · rw [readValue, read]
    rfl

theorem skipSpaces_encode (text rest : List Char) : skipSpaces (encode text ++ rest) = encode text ++ rest := by
  obtain ⟨quote, body, shape, quotes⟩ := exists_cons_encode text
  rw [shape, List.cons_append]
  apply skipSpaces_cons
  rcases quotes with rfl | rfl
  · decide
  · decide

/-- A new key comes behind the others. -/
theorem Entries.set_eq_append {name : String} {item : Item} {entries : Entries}
    (fresh : entries.get? name = none) : entries.set name item = entries ++ [(name, item)] := by
  induction entries with
  | nil => rfl
  | cons entry entries ih =>
    obtain ⟨first, held⟩ := entry
    simp only [Entries.get?, List.lookup_cons] at fresh
    split at fresh
    · cases fresh
    · rename_i other
      have distinct : first ≠ name := (beq_eq_false_iff_ne.mp other).symm
      rw [Entries.set, if_neg distinct, ih fresh]
      rfl

theorem Entries.get?_append_of_ne {name other : String} (differs : other ≠ name) (entries : Entries)
    (item : Item) : Entries.get? other (entries ++ [(name, item)]) = entries.get? other := by
  have apart : (other == name) = false := beq_eq_false_iff_ne.mpr differs
  simp [Entries.get?, List.lookup_append, List.lookup_cons, apart]

/-- A new key above all headers is given its item. -/
theorem Draft.assign_top {name : String} {item : Item} (top : draft.current = [])
    (fresh : draft.root.get? name = none) :
    draft.assign [] name item = some { draft with root := draft.root ++ [(name, item)] } := by
  simp [Draft.assign, top, Entries.descend, Entries.assign, fresh, Entries.set_eq_append fresh]

/-- A line adds its entry to a draft without the key. -/
theorem Draft.readAssignment_line {key text : String} (bare : IsBare key.toList) (top : draft.current = [])
    (fresh : draft.root.get? key = none) (rest : List Char) :
    draft.readAssignment (key.toList ++ ' ' :: '=' :: ' ' :: (encode text.toList ++ '\n' :: rest)) =
      some ({ draft with root := draft.root ++ [(key, .string text)] }, rest) := by
  have name : readKey nestingLimit (key.toList ++ ' ' :: '=' :: ' ' :: (encode text.toList ++ '\n' :: rest)) =
      some (([], String.ofList key.toList), '=' :: ' ' :: (encode text.toList ++ '\n' :: rest)) := by
    obtain ⟨parts, limit⟩ : ∃ parts, nestingLimit = parts + 1 := ⟨_, rfl⟩
    rw [limit]
    exact readKey_append bare parts _
  have sign : skip? '=' ('=' :: ' ' :: (encode text.toList ++ '\n' :: rest)) =
      some (' ' :: (encode text.toList ++ '\n' :: rest)) :=
    skip?_eq_some_iff.mpr rfl
  have gap : skipSpaces (' ' :: (encode text.toList ++ '\n' :: rest)) = encode text.toList ++ '\n' :: rest :=
    skipSpaces_encode text.toList _
  have value (steps depth : Nat) : readValue (steps + 1) depth (encode text.toList ++ '\n' :: rest) =
      some (.string (String.ofList text.toList), '\n' :: rest) :=
    readValue_encode steps depth text.toList (by rintro _ ⟨⟩) (by rintro _ ⟨⟩)
  have lineEnd : skipLineEnd? ('\n' :: rest) = some rest := rfl
  rw [String.ofList_toList] at name
  simp only [String.ofList_toList] at value
  simp only [Draft.readAssignment, name, sign, gap, value, lineEnd, Draft.assign_top top fresh,
    Option.bind_eq_bind, Option.bind_some, Option.pure_def]

theorem Draft.readLines_line {key text : String} (lines : Nat) (bare : IsBare key.toList)
    (top : draft.current = []) (fresh : draft.root.get? key = none) (rest : List Char) :
    draft.readLines (lines + 1) (key.toList ++ ' ' :: '=' :: ' ' :: (encode text.toList ++ '\n' :: rest)) =
      readLines lines { draft with root := draft.root ++ [(key, .string text)] } rest := by
  have line := @Draft.readAssignment_line draft key text bare top fresh rest
  obtain ⟨c, others, shape⟩ := List.exists_cons_of_ne_nil bare.1
  have first : isBareKey c = true := bare.2 c (shape ▸ List.mem_cons_self)
  rw [shape, List.cons_append] at line ⊢
  rw [readLines, skipLayout_bare first]
  split
  · rename_i empty
    cases empty
  · rename_i header
    cases header
    exact absurd first (by decide)
  · rw [line]
    rfl

end FieldSearch.Toml
