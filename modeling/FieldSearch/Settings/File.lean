import FieldSearch.Settings
import FieldSearch.Toml.Document

/-! # The settings file

Settings are kept in a TOML file with a line for each. Reading ignores what it does not know, takes
the default for what is missing, and falls back on the defaults altogether if there is no file.
-/

namespace FieldSearch

open Toml

/-- What lies at the path of a settings file. -/
inductive SettingsFile where
  | missing
  | directory
  | bytes (content : ByteArray)

/-- An item with nothing in it. -/
def Toml.Item.isEmpty : Item → Bool
  | .array [] | .inlineTable [] | .table _ [] => true
  | _ => false

/-- The datatype that an item names: as a string, or as the only key of a table with nothing behind
it. -/
def Datatype.ofItem? : Item → Option Datatype
  | .string name => Datatype.ofName? name
  | .inlineTable [(name, item)] | .table _ [(name, item)] =>
    if item.isEmpty then Datatype.ofName? name else none
  | _ => none

namespace Settings

/-- The key of the default datatype. -/
def typeKey : String := "default_type"

/-- The key of the open mark. -/
def openMarkKey : String := "open_bound"

/-- The settings in a document. -/
def ofEntries? (entries : Entries) : Option Settings := do
  let defaultType ← match entries.get? typeKey with
    | none => some (default : Settings).defaultType
    | some item => Datatype.ofItem? item
  let openMark ← match entries.get? openMarkKey with
    | none => some (default : Settings).openMark
    | some (.string text) => some text
    | some _ => none
  return { defaultType, openMark }

/-- The settings in the text of a file. -/
def ofText (text : String) : Except Fault Settings :=
  match (Toml.readDocument text.toList).bind ofEntries? with
  | some settings => .ok settings
  | none => .error .invalidSettings

/-- The settings in a file. -/
def ofFile : SettingsFile → Except Fault Settings
  | .missing => .ok {}
  | .directory => .error .unreadable
  | .bytes content =>
    match String.fromUTF8? content with
    | some text => ofText text
    | none => .error .unreadable

/-- A line that gives a text to a key. -/
def renderLine (key text : String) : List Char :=
  key.toList ++ ' ' :: '=' :: ' ' :: Toml.encode text.toList ++ ['\n']

/-- The text of the settings file. -/
def render (settings : Settings) : String :=
  String.ofList (renderLine typeKey settings.defaultType.name ++
    renderLine openMarkKey settings.openMark)

/-- What is written when the settings are saved, which needs a folder to save them in. -/
def save (settings : Settings) (folderExists : Bool) : Except Fault String :=
  if folderExists then .ok settings.render else .error .unwritable

end Settings

end FieldSearch
