import FieldSearch.Settings

/-! # Field references

A reference is a name, or a name followed by a datatype in angle brackets. The name may hold any
character but `<`, the type name any character but `>`, and neither may be empty, so a reference
splits in one way only.
-/

namespace FieldSearch

/-- A field and the datatype it is read with. -/
structure Field where
  /-- The name of the column. -/
  name : String
  /-- How literals of the field are read. -/
  type : Datatype
  name_ne_empty : name ≠ ""
  open_notMem_name : '<' ∉ name.toList
deriving DecidableEq

namespace Field

instance : Hashable Field where
  hash field := mixHash (hash field.name) (hash field.type)

/-- The kind of key the field sorts by. -/
def keyType (field : Field) : KeyType :=
  field.type.keyType

/-- The field of this name and type, if the name may stand in a reference. -/
def ofName (name : String) (type : Datatype) : Except Fault Field :=
  if h : name ≠ "" ∧ '<' ∉ name.toList then .ok ⟨name, type, h.1, h.2⟩
  else .error (.invalidReference name)

/-- The name of a reference, and its type name if it has one. -/
def parts? (raw : List Char) : Option (List Char × Option (List Char)) :=
  let name := raw.takeWhile (· ≠ '<')
  if name = [] then none
  else
    match raw.dropWhile (· ≠ '<') with
    | [] => some (name, none)
    | _ :: bracketed =>
      let typeName := bracketed.takeWhile (· ≠ '>')
      if typeName ≠ [] ∧ bracketed.dropWhile (· ≠ '>') = ['>'] then some (name, some typeName)
      else none

/-- The datatype that a reference asks for. -/
def resolveType (settings : Settings) : Option (List Char) → Except Fault Datatype
  | none => .ok settings.defaultType
  | some typeName =>
    match Datatype.named? (String.ofList typeName) with
    | some type => .ok type
    | none => .error (.unknownDatatype (String.ofList typeName))

/-- The field that a text refers to. A text that does not split is at fault before its type is. -/
def read (settings : Settings) (raw : String) : Except Fault Field :=
  match parts? raw.toList with
  | none => .error (.invalidReference raw)
  | some (name, typeName) => do
    let type ← resolveType settings typeName
    ofName (String.ofList name) type

/-- The reference in full, with its datatype. -/
def render (field : Field) : String :=
  s!"{field.name}<{field.type.name}>"

end Field

end FieldSearch
