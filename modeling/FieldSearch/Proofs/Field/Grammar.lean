import FieldSearch.Field
import FieldSearch.Proofs.Text.Bytes
import FieldSearch.Proofs.Text.Run
import Mathlib.Data.List.TakeWhile
import Mathlib.Data.Set.Subsingleton
import Mathlib.Tactic.SplitIfs

/-! # The grammar of field references

A reference is a name, or a name with a type name in angle brackets behind it. Every text is written
by this grammar in one way at most, and reading a text decides by its parts alone what it refers to.
The parts may be found by searching the bytes of the text for the two brackets: the offsets found
are always ones at which the text can be cut.
-/

namespace FieldSearch

open Text

namespace Datatype

/-- Equal up to the case of ASCII letters. -/
def Spelled (name spelling : List Char) : Prop :=
  name.map Char.toLower = spelling.map Char.toLower

private theorem toLower_name (type : Datatype) :
    type.name.toList.map Char.toLower = type.name.toList := by
  cases type <;> decide

theorem name_injective {type other : Datatype} (same : type.name.toList = other.name.toList) :
    type = other := by
  revert same
  cases type <;> cases other <;> decide

/-- A spelling names a datatype exactly if it is the datatype's name in any case. -/
theorem named?_eq_some_iff {spelling : List Char} {type : Datatype} :
    named? (String.ofList spelling) = some type ↔ Spelled type.name.toList spelling := by
  unfold named? Spelled
  rw [toLower_name, String.toList_ofList]
  constructor
  · intro found
    simpa using List.find?_some found
  · intro spelled
    cases found : all.find? (fun other => other.name.toList == spelling.map Char.toLower) with
    | none =>
      have missing := List.find?_eq_none.mp found type (by cases type <;> decide)
      exact absurd (beq_iff_eq.mpr spelled) missing
    | some other =>
      have same : other.name.toList = type.name.toList := by
        rw [spelled]
        simpa using List.find?_some found
      rw [name_injective same]

theorem named?_eq_none_iff {spelling : List Char} : named? (String.ofList spelling) = none ↔
    ∀ type : Datatype, ¬ Spelled type.name.toList spelling := by
  simp only [← named?_eq_some_iff]
  exact Option.eq_none_iff_forall_ne_some

end Datatype

namespace Field

/-- The texts of the grammar, with their names and type names. -/
inductive Reference : List Char → List Char → Option (List Char) → Prop
  | bare {name : List Char} : name ≠ [] → '<' ∉ name → Reference name name none
  | typed {name typeName : List Char} : name ≠ [] → '<' ∉ name → typeName ≠ [] → '>' ∉ typeName →
      Reference (name ++ '<' :: (typeName ++ ['>'])) name (some typeName)

/-- What comes of reading a text, by the grammar alone. -/
inductive Outcome (settings : Settings) (raw : String) : Except Fault Field → Prop
  | malformed : (∀ name typeName, ¬ Reference raw.toList name typeName) →
      Outcome settings raw (.error (.invalidReference raw))
  | unknown {name typeName : List Char} : Reference raw.toList name (some typeName) →
      (∀ type : Datatype, ¬ Datatype.Spelled type.name.toList typeName) →
      Outcome settings raw (.error (.unknownDatatype (String.ofList typeName)))
  | typed {field : Field} {typeName : List Char} :
      Reference raw.toList field.name.toList (some typeName) →
      Datatype.Spelled field.type.name.toList typeName → Outcome settings raw (.ok field)
  | bare {field : Field} : Reference raw.toList raw.toList none → field.name = raw →
      field.type = settings.defaultType → Outcome settings raw (.ok field)

private theorem forall_mem_ne {text : List Char} {c : Char} (absent : c ∉ text) :
    ∀ d ∈ text, decide (d ≠ c) = true :=
  fun _ member => decide_eq_true fun same => absent (same ▸ member)

private theorem takeWhile_ne_append {front : List Char} {c : Char} (absent : c ∉ front)
    (back : List Char) : (front ++ c :: back).takeWhile (· ≠ c) = front :=
  takeWhile_append_stop (forall_mem_ne absent) (by simp)

private theorem dropWhile_ne_append {front : List Char} {c : Char} (absent : c ∉ front)
    (back : List Char) : (front ++ c :: back).dropWhile (· ≠ c) = c :: back :=
  dropWhile_append_stop (forall_mem_ne absent) (by simp)

private theorem takeWhile_ne_self {text : List Char} {c : Char} (absent : c ∉ text) :
    text.takeWhile (· ≠ c) = text :=
  List.takeWhile_eq_self_iff.mpr (forall_mem_ne absent)

private theorem dropWhile_ne_self {text : List Char} {c : Char} (absent : c ∉ text) :
    text.dropWhile (· ≠ c) = [] :=
  List.dropWhile_eq_nil_iff.mpr (forall_mem_ne absent)

/-! Where the brackets first stand decides what the parts are. -/

private theorem parts?_bare {raw : List Char} (absent : '<' ∉ raw) :
    parts? raw = if raw = [] then none else some (raw, none) := by
  simp only [parts?, takeWhile_ne_self absent, dropWhile_ne_self absent]

private theorem parts?_unclosed {name suffix : List Char} (opening : '<' ∉ name)
    (closing : '>' ∉ suffix) : parts? (name ++ '<' :: suffix) = none := by
  simp only [parts?, takeWhile_ne_append opening, dropWhile_ne_append opening,
    dropWhile_ne_self closing]
  simp

private theorem parts?_closed {name typeName rest : List Char} (opening : '<' ∉ name)
    (closing : '>' ∉ typeName) : parts? (name ++ '<' :: (typeName ++ '>' :: rest)) =
      if name = [] ∨ typeName = [] ∨ rest ≠ [] then none else some (name, some typeName) := by
  simp only [parts?, takeWhile_ne_append opening, dropWhile_ne_append opening,
    takeWhile_ne_append closing, dropWhile_ne_append closing]
  by_cases nameEmpty : name = [] <;> by_cases typeEmpty : typeName = [] <;> simp [*]

/-- Every text has no bracket, an opening one that is never closed, or both. -/
private theorem bracket_cases (raw : List Char) : '<' ∉ raw ∨
    (∃ name suffix, raw = name ++ '<' :: suffix ∧ '<' ∉ name ∧ '>' ∉ suffix) ∨
    ∃ name typeName rest, raw = name ++ '<' :: (typeName ++ '>' :: rest) ∧ '<' ∉ name ∧
      '>' ∉ typeName := by
  by_cases opening : '<' ∈ raw
  · obtain ⟨name, suffix, rfl, first⟩ := List.eq_append_cons_of_mem opening
    by_cases closing : '>' ∈ suffix
    · obtain ⟨typeName, rest, rfl, next⟩ := List.eq_append_cons_of_mem closing
      exact .inr (.inr ⟨name, typeName, rest, rfl, first, next⟩)
    · exact .inr (.inl ⟨name, suffix, rfl, first, closing⟩)
  · exact .inl opening

/-- The parts of a text are those it has by the grammar. -/
theorem parts?_eq_some_iff {raw name : List Char} {typeName : Option (List Char)} :
    parts? raw = some (name, typeName) ↔ Reference raw name typeName := by
  constructor
  · intro parts
    rcases bracket_cases raw with absent | ⟨front, suffix, rfl, opening, closing⟩ |
      ⟨front, inner, rest, rfl, opening, closing⟩
    · rw [parts?_bare absent] at parts
      split_ifs at parts with empty
      cases parts
      exact .bare empty absent
    · rw [parts?_unclosed opening closing] at parts
      cases parts
    · rw [parts?_closed opening closing] at parts
      split_ifs at parts with wrong
      cases parts
      simp only [not_or, not_not] at wrong
      obtain ⟨nameEmpty, typeEmpty, rfl⟩ := wrong
      exact .typed nameEmpty opening typeEmpty closing
  · intro reference
    cases reference with
    | bare nonempty absent => rw [parts?_bare absent, if_neg nonempty]
    | typed nonempty opening typeNonempty closing =>
      rw [parts?_closed opening closing, if_neg (by simp [nonempty, typeNonempty])]

/-- A text is written by the grammar in one way at most. -/
theorem Reference.unique {raw name other : List Char} {typeName otherType : Option (List Char)}
    (reference : Reference raw name typeName) (another : Reference raw other otherType) :
    name = other ∧ typeName = otherType := by
  have same := (parts?_eq_some_iff.mpr reference).symm.trans (parts?_eq_some_iff.mpr another)
  simpa using same

private theorem Reference.name_valid {raw name : List Char} {typeName : Option (List Char)}
    (reference : Reference raw name typeName) : name ≠ [] ∧ '<' ∉ name := by
  cases reference <;> constructor <;> assumption

private theorem Reference.name_isPrefix {raw name : List Char} {typeName : Option (List Char)}
    (reference : Reference raw name typeName) : name <+: raw := by
  cases reference with
  | bare => exact List.prefix_rfl
  | typed => exact List.prefix_append _ _

private theorem Reference.name_eq {raw name : List Char} (reference : Reference raw name none) :
    name = raw := by
  cases reference
  rfl

private theorem ofName_eq_ok (field : Field) : ofName field.name field.type = .ok field :=
  dif_pos ⟨field.name_ne_empty, field.open_notMem_name⟩

/-! ## Reading -/

section Reading

variable {settings : Settings} {raw : String}

private theorem read_of_not_reference
    (none : ∀ name typeName, ¬ Reference raw.toList name typeName) :
    read settings raw = .error (.invalidReference raw) := by
  have noParts : parts? raw.toList = .none := Option.eq_none_iff_forall_ne_some.mpr
    fun (name, typeName) parts => none name typeName (parts?_eq_some_iff.mp parts)
  simp only [read, noParts]

private theorem read_of_reference {name : List Char} {typeName : Option (List Char)}
    (reference : Reference raw.toList name typeName) : read settings raw =
      (resolveType settings typeName).bind (ofName (String.ofList name)) := by
  simp only [read, parts?_eq_some_iff.mpr reference]
  rfl

/-- The grammar fixes what comes of reading a text, whatever it is. -/
private theorem read_of_outcome {result : Except Fault Field}
    (outcome : Outcome settings raw result) : read settings raw = result := by
  cases outcome with
  | malformed none => exact read_of_not_reference none
  | unknown reference unnamed =>
    rw [read_of_reference reference, resolveType, Datatype.named?_eq_none_iff.mpr unnamed]
    rfl
  | @typed field typeName reference spelled =>
    rw [read_of_reference reference, resolveType, Datatype.named?_eq_some_iff.mpr spelled,
      String.ofList_toList]
    exact ofName_eq_ok field
  | @bare field reference named default =>
    rw [read_of_reference reference, resolveType, ← default, String.ofList_toList, ← named]
    exact ofName_eq_ok field

/-- Reading a text comes to one of the outcomes of the grammar. -/
theorem outcome_read (settings : Settings) (raw : String) :
    Outcome settings raw (read settings raw) := by
  by_cases none : ∀ name typeName, ¬ Reference raw.toList name typeName
  · rw [read_of_not_reference none]
    exact .malformed none
  simp only [not_forall, not_not] at none
  obtain ⟨name, typeName, reference⟩ := none
  obtain ⟨nonempty, bracketFree⟩ := reference.name_valid
  let field (type : Datatype) : Field :=
    ⟨String.ofList name, type, by simpa using nonempty, by simpa using bracketFree⟩
  cases typeName with
  | none =>
    obtain rfl := reference.name_eq
    have bare : Outcome settings raw (.ok (field settings.defaultType)) :=
      .bare reference String.ofList_toList rfl
    exact read_of_outcome bare ▸ bare
  | some typeName =>
    by_cases unnamed : ∀ type : Datatype, ¬ Datatype.Spelled type.name.toList typeName
    · have unknown : Outcome settings raw _ := .unknown reference unnamed
      exact read_of_outcome unknown ▸ unknown
    · simp only [not_forall, not_not] at unnamed
      obtain ⟨type, spelled⟩ := unnamed
      have typed : Outcome settings raw (.ok (field type)) :=
        .typed (by simpa [field] using reference) spelled
      exact read_of_outcome typed ▸ typed

/-- The name of a field that was read stands at the front of the text. -/
theorem name_prefix_of_read {field : Field} (success : read settings raw = .ok field) :
    field.name.toList <+: raw.toList := by
  have outcome := success ▸ outcome_read settings raw
  cases outcome with
  | typed reference => exact reference.name_isPrefix
  | bare _ named => exact named ▸ List.prefix_rfl

end Reading

/-- A name begins with a character other than a bracket. -/
theorem exists_head_name (field : Field) :
    ∃ c rest, field.name.toList = c :: rest ∧ c ≠ '<' := by
  have nonempty : field.name.toList ≠ [] := by simpa using field.name_ne_empty
  obtain ⟨c, rest, shape⟩ := List.exists_cons_of_ne_nil nonempty
  refine ⟨c, rest, shape, ?_⟩
  rintro rfl
  exact field.open_notMem_name (shape ▸ List.mem_cons_self)

theorem toList_render (field : Field) :
    field.render.toList = field.name.toList ++ '<' :: (field.type.name.toList ++ ['>']) := by
  simp [render, toString]

/-- A reference in full names its datatype, so no settings change what it refers to. -/
theorem read_render (settings : Settings) (field : Field) :
    read settings field.render = .ok field := by
  have nonempty : field.name.toList ≠ [] := by simpa using field.name_ne_empty
  have named : field.type.name.toList ≠ [] := by cases field.type <;> decide
  have closing : '>' ∉ field.type.name.toList := by cases field.type <;> decide
  have reference : Reference field.render.toList field.name.toList (some field.type.name.toList) := by
    rw [toList_render]
    exact .typed nonempty field.open_notMem_name named closing
  exact read_of_outcome (.typed reference rfl)

/-! ## Offsets in bytes -/

/-- The parts of a text, found by searching its bytes for the brackets. There is no result if an
offset that was found is not between two characters. -/
def slicedParts? (raw : List Char) : Option (Option (List Char × Option (List Char))) :=
  match (utf8 raw).idxOf? (asciiByte '<') with
  | none => some (if raw = [] then none else some (raw, none))
  | some opening => do
    let (name, _) ← cutAt? raw opening
    let (_, suffix) ← cutAt? raw (opening + 1)
    match (utf8 suffix).idxOf? (asciiByte '>') with
    | none => some none
    | some closing =>
      if name = [] ∨ closing = 0 ∨ closing + 1 ≠ (utf8 suffix).length then some none
      else do
        let (typeName, _) ← cutAt? suffix closing
        return some (name, some typeName)

/-- Every offset found is one to cut at, and the parts are the same. -/
theorem slicedParts?_eq (raw : List Char) : slicedParts? raw = some (parts? raw) := by
  have ascii : '<'.toNat < 128 ∧ '>'.toNat < 128 := by decide
  rcases bracket_cases raw with absent | ⟨name, suffix, rfl, opening, closing⟩ |
    ⟨name, typeName, rest, rfl, opening, closing⟩
  · rw [parts?_bare absent, slicedParts?, idxOf?_asciiByte_eq_none ascii.1 absent]
  · rw [parts?_unclosed opening closing, slicedParts?, idxOf?_asciiByte ascii.1 opening]
    simp only [cutAt?_length_utf8, cutAt?_length_utf8_succ ascii.1]
    simp [idxOf?_asciiByte_eq_none ascii.2 closing]
  · rw [parts?_closed opening closing, slicedParts?, idxOf?_asciiByte ascii.1 opening]
    simp only [cutAt?_length_utf8, cutAt?_length_utf8_succ ascii.1]
    have typeEmpty : (utf8 typeName).length = 0 ↔ typeName = [] := by
      rw [List.length_eq_zero_iff, utf8_eq_nil_iff]
    have atEnd : (utf8 typeName).length + 1 ≠ (utf8 (typeName ++ '>' :: rest)).length ↔ rest ≠ [] := by
      simp [utf8EncodeChar_ascii ascii.2, utf8_eq_nil_iff]
    simp only [Option.bind_eq_bind, Option.bind_some, idxOf?_asciiByte ascii.2 closing, typeEmpty,
      atEnd, cutAt?_length_utf8]
    split_ifs <;> rfl

/-- What comes of reading a text is what the grammar says: a text outside of it is at fault itself,
one with an unknown type name is at fault for that name, one with a type name refers to that type
under any settings, and a bare name refers to the default type. A text has parts in one way at most,
and they can be found by offsets in bytes. -/
theorem read_eq_iff_outcome (settings : Settings) (raw : String) :
    (∀ result, read settings raw = result ↔ Outcome settings raw result) ∧
    {parts : List Char × Option (List Char) | Reference raw.toList parts.1 parts.2}.Subsingleton ∧
    slicedParts? raw.toList = some (parts? raw.toList) := by
  refine ⟨fun result => ⟨?_, read_of_outcome⟩, ?_, slicedParts?_eq raw.toList⟩
  · rintro rfl
    exact outcome_read settings raw
  · rintro ⟨name, typeName⟩ reference ⟨other, otherType⟩ another
    exact Prod.ext_iff.mpr (reference.unique another)

/-- A type name runs up to the closing bracket at the end, so it may hold opening ones. -/
example : read {} "a<b<c>" = .error (.unknownDatatype "b<c") := by decide

end Field

end FieldSearch
