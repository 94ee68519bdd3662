/-! # Datatypes

A field declares one of seven datatypes. The datatype decides how a literal is read and which kind
of key the field sorts by. Names are written in lower case and recognised in any case.
-/

namespace FieldSearch

/-- How a field reads its literals. -/
inductive Datatype where
  /-- Analysed text, searched by word. -/
  | text
  /-- A string compared as it stands. -/
  | string
  /-- A signed 32-bit integer. -/
  | int
  /-- A signed 64-bit integer. -/
  | long
  /-- A 32-bit floating-point number. -/
  | float
  /-- A 64-bit floating-point number. -/
  | double
  /-- A point in time. -/
  | date
deriving DecidableEq, Repr, Hashable

/-- The kind of key a field sorts by. -/
inductive KeyType where
  | string
  | int
  | long
  | float
  | double
deriving DecidableEq, Repr

namespace Datatype

/-- Every datatype, in the order of their declaration. -/
def all : List Datatype :=
  [.text, .string, .int, .long, .float, .double, .date]

/-- The name written between the brackets of a field reference. -/
def name : Datatype → String
  | .text => "text"
  | .string => "string"
  | .int => "int"
  | .long => "long"
  | .float => "float"
  | .double => "double"
  | .date => "date"

/-- The place of a datatype among all of them. -/
def index (type : Datatype) : Nat :=
  all.idxOf type

/-- The datatype of exactly this name. -/
def ofName? (name : String) : Option Datatype :=
  all.find? fun type => type.name == name

/-- The datatype of this name, with ASCII letters in either case. -/
def named? (spelling : String) : Option Datatype :=
  all.find? fun type => type.name.toList == spelling.toList.map Char.toLower

/-- Text sorts as strings and dates sort as 64-bit integers. -/
def keyType : Datatype → KeyType
  | .text | .string => .string
  | .int => .int
  | .long | .date => .long
  | .float => .float
  | .double => .double

theorem ofName?_name (type : Datatype) : ofName? type.name = some type := by
  cases type <;> decide

theorem named?_name (type : Datatype) : named? type.name = some type := by
  cases type <;> decide

end Datatype

namespace KeyType

/-- Every kind of key, in the order of their declaration. -/
def all : List KeyType :=
  [.string, .int, .long, .float, .double]

/-- The lower-case name of a kind of key. -/
def name : KeyType → String
  | .string => "string"
  | .int => "int"
  | .long => "long"
  | .float => "float"
  | .double => "double"

/-- The kind of key of exactly this name. -/
def ofName? (name : String) : Option KeyType :=
  all.find? fun key => key.name == name

/-- The label shown to users, in upper case. -/
def label : KeyType → String
  | .string => "STRING"
  | .int => "INT"
  | .long => "LONG"
  | .float => "FLOAT"
  | .double => "DOUBLE"

theorem ofName?_name (key : KeyType) : ofName? key.name = some key := by
  cases key <;> decide

end KeyType

end FieldSearch
