import FieldSearch.Datatype

/-! # Faults

What can go wrong, by cause. Each cause carries the text at fault as it was given, and one function
words them all.
-/

namespace FieldSearch

/-- Why a text is no literal of its datatype. -/
inductive LiteralFault where
  | emptyText
  | emptyPhrase
  | unbalancedQuote
  | emptyInteger
  | invalidDigit
  | aboveRange
  | belowRange
  | emptyNumber
  | invalidNumber
  /-- NaN has no place in an order. -/
  | unordered
  | invalidDate
deriving DecidableEq, Repr

namespace LiteralFault

/-- The reason in words. -/
def message : LiteralFault → String
  | .emptyText => "empty text"
  | .emptyPhrase => "empty phrase"
  | .unbalancedQuote => "unbalanced quote"
  | .emptyInteger => "cannot parse integer from empty string"
  | .invalidDigit => "invalid digit found in string"
  | .aboveRange => "number too large to fit in target type"
  | .belowRange => "number too small to fit in target type"
  | .emptyNumber => "cannot parse float from empty string"
  | .invalidNumber => "invalid float literal"
  | .unordered => "NaN is not orderable"
  | .invalidDate => "expected YYYY-MM-DD or YYYY-MM-DDTHH:MM:SS"

end LiteralFault

/-- Why a request is refused. -/
inductive Fault where
  /-- A field reference that is neither a name nor a name with a bracketed type. -/
  | invalidReference (raw : String)
  /-- A type name that names no datatype. -/
  | unknownDatatype (name : String)
  /-- A text that is no literal of the datatype. -/
  | invalidLiteral (type : Datatype) (text : String) (reason : LiteralFault)
  /-- A sort specification with an empty entry. -/
  | emptySortEntry (spec : String)
  /-- A text query whose pattern, compiled, exceeds the limit in bytes. -/
  | oversizedPattern (limit : Nat)
  /-- A variable that is to hold the default type and names none. -/
  | unknownDefaultType (variableName name : String)
  /-- A settings file that is not well formed, or whose values are of the wrong kind. -/
  | invalidSettings
  /-- A settings file that cannot be read. -/
  | unreadable
  /-- A settings file that cannot be written. -/
  | unwritable
deriving DecidableEq, Repr

namespace Fault

/-- The fault in words. Where a settings file is at fault, only the kind of the fault is worded: the cause
that the reader of the file or the system names, which would stand behind it, is left out. -/
def message : Fault → String
  | .invalidReference raw => s!"Field '{raw}' not recognized"
  | .unknownDatatype name => s!"Unrecognized type '{name}'"
  | .invalidLiteral type text reason =>
    s!"Cannot parse '{text}' as {type.name}: {reason.message}"
  | .emptySortEntry spec => s!"Sort '{spec}' not recognized"
  | .oversizedPattern limit =>
    s!"Regex error: Compiled regex exceeds size limit of {limit} bytes."
  | .unknownDefaultType variableName name =>
    s!"Configuration error: {variableName} names unknown type '{name}'"
  | .invalidSettings => "Configuration error: Failed to parse config"
  | .unreadable => "IO error: cannot read"
  | .unwritable => "IO error: cannot write"

end Fault

end FieldSearch
