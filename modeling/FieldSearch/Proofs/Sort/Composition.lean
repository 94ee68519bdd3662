import FieldSearch.Proofs.Field.Grammar
import FieldSearch.Proofs.Sort.Reading

/-! # Sort specifications put together

A comma between two specifications puts their keys one behind the other. Nothing else happens at a
comma, so a specification has one key for each entry, in their order, and the first entry that cannot be
read decides what is wrong with the whole. A faulty reference is at fault itself, while a missing target
is blamed on the whole specification.
-/

namespace FieldSearch

open Text

/-- A text that refers to no target is at fault itself, or its type name is. -/
theorem SortTarget.read_fault {settings : Settings} {text : String} {fault : Fault}
    (failure : SortTarget.read settings text = .error fault) :
    (∃ raw, fault = .invalidReference raw) ∨ ∃ name, fault = .unknownDatatype name := by
  unfold SortTarget.read at failure
  split at failure
  · cases failure
  split at failure
  · cases failure
  rcases bind_eq_error_iff.mp failure with failure | ⟨_, _, done⟩
  · have outcome := failure ▸ Field.outcome_read settings text
    cases outcome with
    | malformed => exact .inl ⟨_, rfl⟩
    | unknown => exact .inr ⟨_, rfl⟩
  · cases done

namespace SortKey

variable {settings : Settings} {entry : List Char}

/-! ## One entry -/

private theorem splitReversed_snd_eq_nil_iff {text : List Char} :
    (splitReversed text).2 = [] ↔ text = [] ∨ text = ['\\'] := by
  unfold splitReversed
  split
  · simp
  · rename_i notBackslash
    constructor
    · exact .inl
    · rintro (rfl | rfl)
      · rfl
      · exact absurd rfl (notBackslash [])

/-- The entry has no target: there is nothing to it, or nothing but a backslash. -/
def NoTarget (entry : List Char) : Prop :=
  trim entry = [] ∨ trim entry = ['\\']

/-- An entry without a target is never read, whatever the settings. -/
private theorem read_of_noTarget (settings : Settings) (noTarget : NoTarget entry) :
    read settings (String.ofList entry) = .error (.emptySortEntry (String.ofList (trim entry))) := by
  rw [NoTarget, ← splitReversed_snd_eq_nil_iff] at noTarget
  simp only [read, String.toList_ofList]
  rw [if_pos noTarget]

/-- An entry that cannot be read has no target, or refers to none. -/
private theorem read_fault_cases {cause : Fault}
    (failure : read settings (String.ofList entry) = .error cause) :
    NoTarget entry ∧ cause = .emptySortEntry (String.ofList (trim entry)) ∨
      ¬ NoTarget entry ∧ ((∃ raw, cause = .invalidReference raw) ∨ ∃ name, cause = .unknownDatatype name) := by
  by_cases noTarget : NoTarget entry
  · cases (read_of_noTarget settings noTarget).symm.trans failure
    exact .inl ⟨noTarget, rfl⟩
  · refine .inr ⟨noTarget, ?_⟩
    rw [NoTarget, ← splitReversed_snd_eq_nil_iff] at noTarget
    simp only [read, String.toList_ofList] at failure
    rw [if_neg noTarget] at failure
    rcases bind_eq_error_iff.mp failure with failure | ⟨_, _, done⟩
    · exact SortTarget.read_fault failure
    · cases done

/-! ## Blame -/

/-- What is wrong with a specification, from what is wrong with a part of it. -/
inductive Blamed (spec : String) : Fault → Fault → Prop
  | noTarget (part : String) : Blamed spec (.emptySortEntry part) (.emptySortEntry spec)
  | reference (raw : String) : Blamed spec (.invalidReference raw) (.invalidReference raw)
  | datatype (name : String) : Blamed spec (.unknownDatatype name) (.unknownDatatype name)

variable {spec whole : String} {cause fault : Fault}

private theorem Blamed.eq (blamed : Blamed spec cause fault) : blame spec cause = fault := by
  cases blamed <;> rfl

private theorem blamed_of_read (spec : String)
    (failure : read settings (String.ofList entry) = .error cause) : Blamed spec cause (blame spec cause) := by
  rcases read_fault_cases failure with ⟨_, rfl⟩ | ⟨_, ⟨raw, rfl⟩ | ⟨name, rfl⟩⟩
  · exact .noTarget _
  · exact .reference raw
  · exact .datatype name

/-- A fault that was blamed on a part is blamed on the whole as if it had not been. -/
private theorem blamed_comp_iff (part : String) :
    (∃ passed, Blamed part cause passed ∧ Blamed whole passed fault) ↔ Blamed whole cause fault := by
  constructor
  · rintro ⟨_, ⟨_⟩, blamed⟩ <;> cases blamed
    · exact .noTarget _
    · exact .reference _
    · exact .datatype _
  · rintro (part' | raw | name)
    · exact ⟨_, .noTarget _, .noTarget part⟩
    · exact ⟨_, .reference raw, .reference raw⟩
    · exact ⟨_, .datatype name, .datatype name⟩

/-! ## All entries -/

/-- The keys of some entries, each read by itself. -/
private def readEntries (settings : Settings) (entries : List (List Char)) : Except Fault (List SortKey) :=
  entries.mapM fun entry => read settings (String.ofList entry)

private theorem readAll_eq (settings : Settings) (spec : String) : readAll settings spec =
    (readEntries settings (spec.toList.splitOn ',')).mapError (blame spec) :=
  mapM_mapError _ _ _

/-- The first entry of a specification that cannot be read, and what is wrong with it. -/
structure FirstAtFault (settings : Settings) (spec : String) (entry : List Char) (cause : Fault) : Prop where
  isFirst : ∃ before behind, spec.toList.splitOn ',' = before ++ entry :: behind ∧
    ∀ earlier ∈ before, ∃ key, read settings (String.ofList earlier) = .ok key
  failure : read settings (String.ofList entry) = .error cause

private theorem readEntries_eq_error_iff :
    readEntries settings (spec.toList.splitOn ',') = .error cause ↔
      ∃ entry, FirstAtFault settings spec entry cause := by
  rw [readEntries, mapM_eq_error_iff]
  constructor
  · rintro ⟨before, entry, behind, split, succeed, failure⟩
    exact ⟨entry, ⟨before, behind, split, succeed⟩, failure⟩
  · rintro ⟨entry, ⟨before, behind, split, succeed⟩, failure⟩
    exact ⟨before, entry, behind, split, succeed, failure⟩

private theorem readAll_eq_error_iff_readEntries : readAll settings spec = .error fault ↔
    ∃ cause, readEntries settings (spec.toList.splitOn ',') = .error cause ∧ Blamed spec cause fault := by
  rw [readAll_eq, mapError_eq_error_iff]
  constructor
  · rintro ⟨cause, failure, rfl⟩
    obtain ⟨entry, first⟩ := readEntries_eq_error_iff.mp failure
    exact ⟨cause, failure, blamed_of_read spec first.failure⟩
  · rintro ⟨cause, failure, blamed⟩
    exact ⟨cause, failure, blamed.eq⟩

/-- The first entry that cannot be read decides, and no other. -/
theorem readAll_eq_error_iff : readAll settings spec = .error fault ↔
    ∃ entry cause, FirstAtFault settings spec entry cause ∧ Blamed spec cause fault := by
  rw [readAll_eq_error_iff_readEntries, exists_comm]
  simp only [readEntries_eq_error_iff, exists_and_right]

/-- A specification is malformed as a whole exactly if an entry has no target and all before it can be
read. -/
theorem readAll_eq_emptySortEntry_iff {part : String} :
    readAll settings spec = .error (.emptySortEntry part) ↔
      part = spec ∧ ∃ before entry behind, spec.toList.splitOn ',' = before ++ entry :: behind ∧
        (∀ earlier ∈ before, ∃ key, read settings (String.ofList earlier) = .ok key) ∧ NoTarget entry := by
  rw [readAll_eq_error_iff]
  constructor
  · rintro ⟨entry, _, first, ⟨written⟩⟩
    obtain ⟨before, behind, split, succeed⟩ := first.isFirst
    rcases read_fault_cases first.failure with ⟨noTarget, _⟩ | ⟨_, ⟨_, other⟩ | ⟨_, other⟩⟩
    · exact ⟨rfl, before, entry, behind, split, succeed, noTarget⟩
    · cases other
    · cases other
  · rintro ⟨rfl, before, entry, behind, split, succeed, noTarget⟩
    have first : FirstAtFault settings part entry (.emptySortEntry (String.ofList (trim entry))) :=
      ⟨⟨before, behind, split, succeed⟩, read_of_noTarget settings noTarget⟩
    exact ⟨entry, _, first, .noTarget _⟩

/-! ## Two specifications -/

private theorem readEntries_append (settings : Settings) (front back : List (List Char)) :
    readEntries settings (front ++ back) = do
      let first ← readEntries settings front
      let second ← readEntries settings back
      return first ++ second :=
  List.mapM_append

private theorem splitOn_append_comma (front back : String) : (front ++ "," ++ back).toList.splitOn ',' =
    front.toList.splitOn ',' ++ back.toList.splitOn ',' := by
  have comma : ",".toList = [','] := by decide
  rw [String.toList_append, String.toList_append, comma, List.append_assoc, List.singleton_append,
    List.splitOn_append_cons_self]

theorem readAll_append_comma_eq_ok_iff {front back : String} {keys : List SortKey} :
    readAll settings (front ++ "," ++ back) = .ok keys ↔ ∃ first second,
      readAll settings front = .ok first ∧ readAll settings back = .ok second ∧ keys = first ++ second := by
  simp only [readAll_eq, mapError_eq_ok_iff, splitOn_append_comma, readEntries_append, bind_eq_ok_iff,
    pure_eq_ok_iff]
  constructor
  · rintro ⟨first, front, second, back, rfl⟩
    exact ⟨first, second, front, back, rfl⟩
  · rintro ⟨first, second, front, back, rfl⟩
    exact ⟨first, front, second, back, rfl⟩

private theorem readEntries_append_eq_error_iff {front back : List (List Char)} :
    readEntries settings (front ++ back) = .error cause ↔ readEntries settings front = .error cause ∨
      (∃ first, readEntries settings front = .ok first) ∧ readEntries settings back = .error cause := by
  rw [readEntries_append, bind_eq_error_iff]
  refine or_congr_right ?_
  constructor
  · rintro ⟨first, success, rest⟩
    rcases bind_eq_error_iff.mp rest with failure | ⟨_, _, done⟩
    · exact ⟨⟨first, success⟩, failure⟩
    · cases done
  · rintro ⟨⟨first, success⟩, failure⟩
    exact ⟨first, success, bind_eq_error_iff.mpr (.inl failure)⟩

/-- The fault of the first specification comes before that of the second. -/
theorem readAll_append_comma_eq_error_iff {front back : String} :
    readAll settings (front ++ "," ++ back) = .error fault ↔
      ∃ cause, (readAll settings front = .error cause ∨
        (∃ first, readAll settings front = .ok first) ∧ readAll settings back = .error cause) ∧
        Blamed (front ++ "," ++ back) cause fault := by
  have succeeds (first : List SortKey) : readAll settings front = .ok first ↔
      readEntries settings (front.toList.splitOn ',') = .ok first := by
    rw [readAll_eq, mapError_eq_ok_iff]
  simp only [readAll_eq_error_iff_readEntries, succeeds, splitOn_append_comma,
    readEntries_append_eq_error_iff]
  -- It is the same to blame the whole at once or behind the part.
  constructor
  · rintro ⟨cause, failure | ⟨success, failure⟩, blamed⟩
    · obtain ⟨passed, before, blamed⟩ := (blamed_comp_iff front).mpr blamed
      exact ⟨passed, .inl ⟨cause, failure, before⟩, blamed⟩
    · obtain ⟨passed, before, blamed⟩ := (blamed_comp_iff back).mpr blamed
      exact ⟨passed, .inr ⟨success, cause, failure, before⟩, blamed⟩
  · rintro ⟨passed, ⟨cause, failure, before⟩ | ⟨success, cause, failure, before⟩, blamed⟩
    · exact ⟨cause, .inl failure, (blamed_comp_iff front).mp ⟨passed, before, blamed⟩⟩
    · exact ⟨cause, .inr ⟨success, failure⟩, (blamed_comp_iff back).mp ⟨passed, before, blamed⟩⟩

/-- With a comma between them, two specifications are read as the keys of the first and behind them those of
the second, exactly if both can be read. Otherwise the fault is that of the first one to fail, blamed
on the whole where no target was found. So a specification has one key more than it has commas, each read
from the entry in its place, and the first entry at fault decides: it is that entry's fault, and the
whole is malformed exactly if an entry is empty or a lone backslash and all before it can be read. -/
theorem readAll_append_comma_iff (settings : Settings) :
    (∀ front back keys, readAll settings (front ++ "," ++ back) = .ok keys ↔ ∃ first second,
      readAll settings front = .ok first ∧ readAll settings back = .ok second ∧ keys = first ++ second) ∧
    (∀ front back fault, readAll settings (front ++ "," ++ back) = .error fault ↔
      ∃ cause, (readAll settings front = .error cause ∨
        (∃ first, readAll settings front = .ok first) ∧ readAll settings back = .error cause) ∧
        Blamed (front ++ "," ++ back) cause fault) ∧
    ∀ spec, (∀ keys, readAll settings spec = .ok keys ↔ keys.length = spec.toList.count ',' + 1 ∧
        List.Forall₂ (fun entry key => read settings (String.ofList entry) = .ok key)
          (spec.toList.splitOn ',') keys) ∧
      (∀ fault, readAll settings spec = .error fault ↔
        ∃ entry cause, FirstAtFault settings spec entry cause ∧ Blamed spec cause fault) ∧
      ∀ part, readAll settings spec = .error (.emptySortEntry part) ↔
        part = spec ∧ ∃ before entry behind, spec.toList.splitOn ',' = before ++ entry :: behind ∧
          (∀ earlier ∈ before, ∃ key, read settings (String.ofList earlier) = .ok key) ∧
          NoTarget entry := by
  refine ⟨fun _ _ _ => readAll_append_comma_eq_ok_iff, fun _ _ _ => readAll_append_comma_eq_error_iff,
    fun spec => ⟨fun keys => ?_, fun _ => readAll_eq_error_iff, fun _ => readAll_eq_emptySortEntry_iff⟩⟩
  rw [readAll_eq_ok_iff]
  constructor
  · intro entries
    exact ⟨by rw [← entries.length_eq, length_splitOn], entries⟩
  · exact And.right

/-- The entry without a target comes before the one with an unknown datatype, and the whole is blamed. -/
example : readAll {} "a, \\ ,b<c>" = .error (.emptySortEntry "a, \\ ,b<c>") := by decide

end SortKey

end FieldSearch
