import FieldSearch.Data.Exchange
import FieldSearch.Proofs.Field.Grammar
import Mathlib.Data.List.Basic

/-! # Fields and their references in full

A field is made from a name and a datatype, from a reference, or from data. All three agree: a name
makes a field exactly if the name with the datatype behind it is a reference, and then to the same
field. The reference in full is all there is to a field, so it tells fields apart, and whoever reads
it or exchanges it gets the field back.
-/

namespace FieldSearch

namespace Datatype

/-- No bracket opens in the name of a datatype, in whatever case it is written. -/
theorem Spelled.open_notMem {type : Datatype} {spelling : List Char}
    (spelled : Spelled type.name.toList spelling) : '<' ∉ spelling := by
  intro member
  have lowered : '<' ∈ spelling.map Char.toLower := List.mem_map.mpr ⟨'<', member, by decide⟩
  rw [← spelled] at lowered
  revert lowered
  cases type <;> decide

/-- The name of a datatype spells no other one. -/
theorem Spelled.eq {type other : Datatype} (spelled : Spelled type.name.toList other.name.toList) :
    type = other := by
  have named := named?_eq_some_iff.mpr spelled
  rw [String.ofList_toList, named?_name] at named
  exact (Option.some_inj.mp named).symm

end Datatype

namespace Field

theorem ofName_eq_ok_iff {name : String} {type : Datatype} {field : Field} :
    ofName name type = .ok field ↔ field.name = name ∧ field.type = type := by
  constructor
  · intro made
    unfold ofName at made
    split at made
    · cases made
      exact ⟨rfl, rfl⟩
    · cases made
  · rintro ⟨rfl, rfl⟩
    exact dif_pos ⟨field.name_ne_empty, field.open_notMem_name⟩

private theorem Reference.open_notMem {raw name : List Char} (reference : Reference raw name none) :
    '<' ∉ raw := by
  cases reference
  assumption

/-- The brackets of a reference are those at its end, if none opens in the type name. -/
private theorem Reference.eq_of_bracketed {front name inner typeName : List Char}
    (reference : Reference (front ++ '<' :: (inner ++ ['>'])) name (some typeName))
    (bracketFree : '<' ∉ typeName) : name = front ∧ typeName = inner := by
  generalize raw : front ++ '<' :: (inner ++ ['>']) = text at reference
  cases reference with
  | typed _ opening _ _ =>
    have suffixFree : '<' ∉ typeName ++ ['>'] := by simp [bracketFree]
    obtain ⟨named, _, suffix⟩ := (List.append_cons_inj_of_notMem opening suffixFree).mp raw.symm
    exact ⟨named, List.append_cancel_right suffix⟩

/-- A name with a datatype behind it refers to the field of both, and to nothing if the name may not
stand in a reference: a bracket in the name would open before that of the datatype, and what it
encloses would name no datatype. -/
theorem read_bracketed_eq_ok_iff {settings : Settings} {name : String} {type : Datatype}
    {field : Field} : read settings (name ++ "<" ++ type.name ++ ">") = .ok field ↔
      field.name = name ∧ field.type = type := by
  constructor
  · intro success
    have written : (name ++ "<" ++ type.name ++ ">").toList =
        name.toList ++ '<' :: (type.name.toList ++ ['>']) := by simp
    have outcome := success ▸ outcome_read settings (name ++ "<" ++ type.name ++ ">")
    cases outcome with
    | bare reference =>
      have absent := reference.open_notMem
      rw [written] at absent
      exact absurd (List.mem_append_right _ List.mem_cons_self) absent
    | typed reference spelled =>
      rw [written] at reference
      obtain ⟨named, rfl⟩ := reference.eq_of_bracketed spelled.open_notMem
      exact ⟨String.toList_inj.mp named, spelled.eq⟩
  · rintro ⟨rfl, rfl⟩
    exact read_render settings field

/-- The reference in full tells fields apart. -/
theorem render_inj {field other : Field} : field.render = other.render ↔ field = other := by
  constructor
  · intro same
    have read := read_render {} field
    rw [same, read_render] at read
    exact (Except.ok.inj read).symm
  · rintro rfl
    rfl

theorem ofData_toData (field : Field) : ofData field.toData = .ok field := by
  rw [toData, ofData, read_render]
  rfl

/-- A name and a datatype make a field exactly if they are read as a reference, whatever the settings,
and both times it is the same field. Every field is read back from its reference in full under any
settings, and from its data, and two fields are equal exactly if their references in full are. -/
theorem ofName_eq_ok_iff_read (settings : Settings) (name : String) (type : Datatype) :
    (∀ field, ofName name type = .ok field ↔
      read settings (name ++ "<" ++ type.name ++ ">") = .ok field) ∧
    (∀ field : Field, (∀ later, read later field.render = .ok field) ∧
      ofData field.toData = .ok field) ∧
    ∀ field other : Field, field = other ↔ field.render = other.render := by
  refine ⟨?_, ?_, ?_⟩
  · intro field
    rw [ofName_eq_ok_iff, read_bracketed_eq_ok_iff]
  · intro field
    exact ⟨fun later => read_render later field, ofData_toData field⟩
  · intro field other
    exact render_inj.symm

end Field

end FieldSearch
