import FieldSearch.Proofs.Field.Grammar
import FieldSearch.Proofs.Sort.Reading
import FieldSearch.Proofs.Text.Trim

/-! # Field references as sort entries

A reference to a field is an entry for the values of that field as well, unless the entry loses a part of
it: to a comma, to the white space around it, or to a backslash in front. Behind a backslash that
reverses the entry, only a comma and the white space at the end are lost.
-/

namespace FieldSearch

open Text

/-- A reference is the bare name of its field, or it closes with a bracket. -/
theorem Field.eq_name_or_closed_of_read {settings : Settings} {raw : String} {field : Field}
    (success : Field.read settings raw = .ok field) :
    raw = field.name ∨ raw.toList.getLast? = some '>' := by
  have outcome := success ▸ outcome_read settings raw
  cases outcome with
  | bare _ named => exact .inl named.symm
  | @typed _ typeName reference =>
    generalize raw.toList = text at reference
    cases reference with
    | typed =>
      have shape : field.name.toList ++ '<' :: (typeName ++ ['>']) =
          (field.name.toList ++ '<' :: typeName) ++ ['>'] := by simp
      exact .inr (by rw [shape, List.getLast?_concat])

namespace SortKey

variable {settings : Settings} {raw : String} {field : Field}

/-- What stands in front of the target of an entry. -/
private def mark (reversed : Bool) : List Char :=
  if reversed then ['\\'] else []

private theorem splitReversed_eq_mark_iff {text target : List Char} {reversed : Bool} :
    splitReversed text = (reversed, target) ↔
      text = mark reversed ++ target ∧ (reversed = false → target.head? ≠ some '\\') := by
  rw [splitReversed_eq_iff]
  cases reversed with
  | true => simp [mark]
  | false =>
    simp only [mark, Bool.false_eq_true, ↓reduceIte, List.nil_append, forall_const]
    exact and_congr_right fun same => by rw [same]

/-- A specification of one key has no comma. -/
private theorem readAll_eq_singleton_iff {text : List Char} {key : SortKey} :
    readAll settings (String.ofList text) = .ok [key] ↔
      ',' ∉ text ∧ read settings (String.ofList text) = .ok key := by
  rw [readAll_eq_ok_iff, String.toList_ofList]
  constructor
  · intro entries
    have commas := length_splitOn ',' text
    rw [entries.length_eq, List.length_singleton] at commas
    have absent : ',' ∉ text := List.count_eq_zero.mp (by omega)
    rw [List.splitOn_eq_singleton absent] at entries
    exact ⟨absent, (List.forall₂_cons.mp entries).1⟩
  · rintro ⟨absent, success⟩
    rw [List.splitOn_eq_singleton absent]
    exact .cons success .nil

/-- A text that refers to a field is no reserved name, nor is it empty. -/
private theorem exists_head_of_read (success : Field.read settings raw = .ok field) :
    ∃ c rest, raw.toList = c :: rest ∧ field.name.toList.head? = some c ∧ c ≠ '<' := by
  obtain ⟨c, rest, shape, notBracket⟩ := field.exists_head_name
  obtain ⟨behind, whole⟩ := Field.name_prefix_of_read success
  rw [shape] at whole
  exact ⟨c, rest ++ behind, whole.symm, by rw [shape]; rfl, notBracket⟩

/-- If a reference is an entry for its field, nothing is trimmed from it. -/
private theorem unpadded_of_read {reversed : Bool} {target : List Char}
    (success : Field.read settings raw = .ok field)
    (trimmed : trim (mark reversed ++ raw.toList) = mark reversed ++ target)
    (again : Field.read settings (String.ofList target) = .ok field) :
    Unpadded (mark reversed ++ raw.toList) := by
  rcases Field.eq_name_or_closed_of_read success with rfl | closed
  · -- Both texts begin with the name, and the one that was trimmed is no longer than the other.
    have named := Field.name_prefix_of_read again
    rw [String.toList_ofList] at named
    have shorter := (trim_isInfix (mark reversed ++ field.name.toList)).length_le
    rw [trimmed, List.length_append, List.length_append] at shorter
    have same := named.eq_of_length_le (by omega)
    rw [same]
    exact trimmed ▸ trim_unpadded _
  · -- The bracket at the end is no white space. In front, both texts begin with the name.
    have unpadded := trimmed ▸ trim_unpadded (mark reversed ++ raw.toList)
    constructor
    · cases reversed with
      | true =>
        rintro _ ⟨⟩
        decide
      | false =>
        obtain ⟨c, rest, shape, first, _⟩ := exists_head_of_read success
        obtain ⟨d, others, target, second, _⟩ := exists_head_of_read again
        rw [String.toList_ofList] at target
        obtain rfl : c = d := Option.some_inj.mp (first.symm.trans second)
        rw [mark, target] at unpadded
        rw [mark, shape]
        exact unpadded.1
    · intro c last
      rw [List.getLast?_append, closed] at last
      obtain rfl := Option.some_inj.mp last
      decide

/-- A reference is an entry for its field, reversed or not, exactly if the entry loses nothing of it. -/
private theorem readAll_mark_eq_ok_iff (success : Field.read settings raw = .ok field) (reversed : Bool) :
    readAll settings (String.ofList (mark reversed ++ raw.toList)) = .ok [⟨.values field, reversed⟩] ↔
      ',' ∉ raw.toList ∧ Unpadded (mark reversed ++ raw.toList) ∧
        (reversed = false → raw.toList.head? ≠ some '\\') := by
  have comma : ',' ∉ mark reversed ++ raw.toList ↔ ',' ∉ raw.toList := by
    cases reversed <;> simp [mark]
  simp only [readAll_eq_singleton_iff, comma, read_eq_ok_iff, String.toList_ofList, splitReversed_eq_mark_iff,
    SortTarget.read_eq_values_iff]
  refine and_congr_right fun _ => ?_
  constructor
  · rintro ⟨target, ⟨trimmed, unreversed⟩, _, _, _, again⟩
    have unpadded := unpadded_of_read success trimmed again
    rw [trim_eq_self_iff.mpr unpadded] at trimmed
    obtain rfl := List.append_cancel_left trimmed
    exact ⟨unpadded, unreversed⟩
  · rintro ⟨unpadded, unreversed⟩
    obtain ⟨c, rest, shape, _, notBracket⟩ := exists_head_of_read success
    have unreserved {name : String} (bracket : name.toList.head? = some '<') :
        String.ofList raw.toList ≠ name := by
      rintro rfl
      rw [String.toList_ofList, shape] at bracket
      exact notBracket (Option.some_inj.mp bracket)
    refine ⟨raw.toList, ⟨trim_eq_self_iff.mpr unpadded, unreversed⟩, ?_, unreserved (by decide),
      unreserved (by decide), ?_⟩
    · rw [shape]
      exact List.cons_ne_nil c rest
    · rwa [String.ofList_toList]

/-- Behind a backslash only the end of a reference can be white space around the entry. -/
private theorem unpadded_mark_iff (success : Field.read settings raw = .ok field) :
    Unpadded (mark true ++ raw.toList) ↔ ∀ c ∈ raw.toList.getLast?, isBlank c = false := by
  obtain ⟨c, rest, shape, _⟩ := exists_head_of_read success
  rw [shape]
  change Unpadded ('\\' :: c :: rest) ↔ _
  rw [Unpadded, List.getLast?_cons_cons]
  exact and_iff_right (by rintro _ ⟨⟩; decide)

/-- A reference to a field is an entry for that field exactly if there is no comma in it, no white space around
it and no backslash in front. Reversed by another backslash, it is so exactly if there is no comma in it
and no white space at its end. -/
theorem readAll_eq_values_iff (settings : Settings) (raw : String) (field : Field)
    (success : Field.read settings raw = .ok field) :
    (readAll settings raw = .ok [⟨.values field, false⟩] ↔
      ',' ∉ raw.toList ∧ Unpadded raw.toList ∧ raw.toList.head? ≠ some '\\') ∧
    (readAll settings ("\\" ++ raw) = .ok [⟨.values field, true⟩] ↔
      ',' ∉ raw.toList ∧ ∀ c ∈ raw.toList.getLast?, isBlank c = false) := by
  have forward := readAll_mark_eq_ok_iff success false
  have reversed := readAll_mark_eq_ok_iff success true
  have marked : String.ofList (mark true ++ raw.toList) = "\\" ++ raw := by
    apply String.toList_inj.mp
    rw [String.toList_ofList, String.toList_append]
    rfl
  rw [marked, unpadded_mark_iff success] at reversed
  constructor
  · simpa [mark] using forward
  · simpa using reversed

/-- The first backslash of a name has to be reversed to be kept. -/
theorem readAll_backslash_name :
    let field : Field := ⟨"\\ a>b", .float, by decide, by decide⟩
    Field.read {} "\\ a>b<Float>" = .ok field ∧
      readAll {} "\\ a>b<Float>" ≠ .ok [⟨.values field, false⟩] ∧
      readAll {} "\\\\ a>b<Float>" = .ok [⟨.values field, true⟩] := by
  have success : Field.read {} "\\ a>b<Float>" = .ok ⟨"\\ a>b", .float, by decide, by decide⟩ := by
    decide
  obtain ⟨forward, reversed⟩ := readAll_eq_values_iff {} _ _ success
  refine ⟨success, fun entry => (forward.mp entry).2.2 (by decide), reversed.mpr ⟨by decide, ?_⟩⟩
  have last : "\\ a>b<Float>".toList.getLast? = some '>' := by decide
  rw [last]
  rintro _ ⟨⟩
  decide

end SortKey

end FieldSearch
