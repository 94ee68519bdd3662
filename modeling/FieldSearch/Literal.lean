import FieldSearch.Number.Integer
import FieldSearch.Number.Shortest
import FieldSearch.Sql.Predicate
import FieldSearch.Time.Literal

/-! # Literals

A literal is the value that a text has under a datatype. Ranges and exact queries read their texts
through one function, so a field never reads the same text in two ways.
-/

namespace FieldSearch

open Text Number

/-- The value of a literal. -/
inductive Literal where
  | text (value : String)
  | int (value : Int32)
  | long (value : Int64)
  | float (value : Binary .single)
  | double (value : Binary .double)
  | instant (value : Time.Instant)
deriving DecidableEq

namespace Literal

-- Powers are those of the core library, whatever else is imported.
attribute [local instance (2000)] instPowNat

/-- Read a text under a datatype. -/
def ofText (type : Datatype) (text : String) : Except LiteralFault Literal :=
  match type with
  | .text => if trim text.toList = [] then .error .emptyText else .ok (.text text)
  | .string => .ok (.text text)
  | .int => do
    let value ← readInteger (-2 ^ (31 : Nat)) (2 ^ (31 : Nat) - 1) (trim text.toList)
    return .int (.ofInt value)
  | .long => do
    let value ← readInteger (-2 ^ (63 : Nat)) (2 ^ (63 : Nat) - 1) (trim text.toList)
    return .long (.ofInt value)
  | .float => do return .float (← Binary.read .single (trim text.toList))
  | .double => do return .double (← Binary.read .double (trim text.toList))
  | .date => do return .instant (← Time.read text.toList)

/-- Read a text under a datatype. A fault names the datatype and carries the text as it was. -/
def read (type : Datatype) (text : String) : Except Fault Literal :=
  match ofText type text with
  | .ok literal => .ok literal
  | .error reason => .error (.invalidLiteral type text reason)

/-- A text has no other value than it is read as. -/
theorem read_eq_ok_iff {type : Datatype} {text : String} {literal : Literal} :
    read type text = .ok literal ↔ ofText type text = .ok literal := by
  rw [read]
  cases ofText type text <;> simp

/-- The text of a value. -/
def render : Literal → String
  | .text value => value
  | .int value => String.ofList (signedDigits value.toInt)
  | .long value => String.ofList (signedDigits value.toInt)
  | .float value => String.ofList value.render
  | .double value => String.ofList value.render
  | .instant value => String.ofList value.render

/-- The value as it is bound to a predicate. Instants are bound to the millisecond. -/
def toSql : Literal → Sql.Value
  | .text value => .text value
  | .int value => .int value
  | .long value => .bigint value
  | .float value => .float value
  | .double value => .double value
  | .instant value => .timestamp value.millis

/-- Equal values of one kind. Floating-point numbers are compared as numbers, and instants to the
nanosecond. -/
def same : Literal → Literal → Bool
  | .text a, .text b => a == b
  | .int a, .int b => a == b
  | .long a, .long b => a == b
  | .float a, .float b => a.same b
  | .double a, .double b => a.same b
  | .instant a, .instant b => a == b
  | _, _ => false

end Literal

end FieldSearch
