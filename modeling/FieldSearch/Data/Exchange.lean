import FieldSearch.Data.Basic
import FieldSearch.Field

/-! # Exchanging fields and settings

A field is exchanged as its reference in full. A datatype or a kind of key is exchanged by name, or
as a record of that name with null in it. Settings are exchanged as a record or as a list of their
values. Names of datatypes are in lower case here, unlike in references.
-/

namespace FieldSearch

/-- Why data stand for nothing of the kind that is asked for. -/
inductive DataFault where
  /-- The data are of the wrong shape, or a name in them is unknown. -/
  | mismatch
  /-- The data are a text at fault. -/
  | refused (fault : Fault)
deriving DecidableEq, Repr

namespace Data

/-- The name that data stand for: a string, or a record of one member with null in it. -/
def name? : Data → Option String
  | .string name => some name
  | .record [(name, .null)] => some name
  | _ => none

/-- The member of a record. -/
def member? (key : String) (members : List (String × Data)) : Option Data :=
  members.lookup key

/-- The result of a look-up, whose failure is a mismatch. -/
def expect {α : Type} : Option α → Except DataFault α
  | some value => .ok value
  | none => .error .mismatch

end Data

namespace Field

/-- The field that data stand for, under the default settings. -/
def ofData : Data → Except DataFault Field
  | .string text => (read {} text).mapError .refused
  | _ => .error .mismatch

/-- The data that stand for a field. -/
def toData (field : Field) : Data :=
  .string field.render

end Field

/-- The datatype that data stand for. -/
def Datatype.ofData (data : Data) : Except DataFault Datatype :=
  Data.expect (data.name?.bind ofName?)

/-- The data that stand for a datatype. -/
def Datatype.toData (type : Datatype) : Data :=
  .string type.name

/-- The kind of key that data stand for. -/
def KeyType.ofData (data : Data) : Except DataFault KeyType :=
  Data.expect (data.name?.bind ofName?)

/-- The data that stand for a kind of key. -/
def KeyType.toData (key : KeyType) : Data :=
  .string key.name

namespace Settings

/-- The text that data stand for. -/
def textOfData : Data → Except DataFault String
  | .string text => .ok text
  | _ => .error .mismatch

/-- Settings from the data of each, a missing one having its default. -/
def ofParts (defaultType openMark : Option Data) : Except DataFault Settings := do
  let defaultType ← match defaultType with
    | some data => Datatype.ofData data
    | none => pure (default : Settings).defaultType
  let openMark ← match openMark with
    | some data => textOfData data
    | none => pure (default : Settings).openMark
  return { defaultType, openMark }

/-- The settings that data stand for. A record may have other members too, and a list may end
early. -/
def ofData : Data → Except DataFault Settings
  | .record members =>
    ofParts (Data.member? "default_type" members) (Data.member? "open_bound" members)
  | .list [] => ofParts none none
  | .list [defaultType] => ofParts (some defaultType) none
  | .list [defaultType, openMark] => ofParts (some defaultType) (some openMark)
  | _ => .error .mismatch

/-- The data that stand for settings. -/
def toData (settings : Settings) : Data :=
  .record [("default_type", settings.defaultType.toData),
    ("open_bound", .string settings.openMark)]

end Settings

end FieldSearch
