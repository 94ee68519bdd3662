import FieldSearch.Fault

/-! # Settings

Two things about reading are left to the user: the datatype of a reference that names none, and
the text that leaves one end of a range open. A variable of the environment can override the first.
-/

namespace FieldSearch

/-- The user's choices. -/
structure Settings where
  /-- The datatype of a reference without a bracketed type. -/
  defaultType : Datatype := .text
  /-- The text that leaves an end of a range open. -/
  openMark : String := "*"
deriving DecidableEq, Repr

namespace Settings

instance : Inhabited Settings := ⟨{}⟩

/-- The variable that overrides the default datatype. -/
def typeVariable : String :=
  "FIELDREF_DEFAULT_TYPE"

/-- The defaults, with the default datatype taken from the variable if that is set. -/
def ofEnvironment (lookup : String → Option String) : Except Fault Settings :=
  match lookup typeVariable with
  | none => .ok {}
  | some name =>
    match Datatype.named? name with
    | some type => .ok { defaultType := type }
    | none => .error (.unknownDefaultType typeVariable name)

/-- Like `ofEnvironment`, from the variable's bytes. Bytes that are not text count as no value. -/
def ofVariableBytes (bytes : Option ByteArray) : Except Fault Settings :=
  ofEnvironment fun _ => bytes.bind String.fromUTF8?

end Settings

end FieldSearch
