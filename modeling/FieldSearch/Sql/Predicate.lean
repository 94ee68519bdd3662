import FieldSearch.Number.Binary
import FieldSearch.Sql.Identifier

/-! # Predicates

A predicate is the text of a condition with a question mark for each value, and the values in the
order of their question marks. Only column names and operators reach the text, so no value can
change what the condition says.
-/

namespace FieldSearch.Sql

open Number

/-- A value bound to a question mark. -/
inductive Value where
  | text (value : String)
  | int (value : Int32)
  | bigint (value : Int64)
  | float (value : Binary .single)
  | double (value : Binary .double)
  /-- Milliseconds since the start of 1970. -/
  | timestamp (millis : Int)
deriving DecidableEq

namespace Value

/-- Equal values of one kind. Floating-point numbers are compared as numbers. -/
def same : Value → Value → Bool
  | .text a, .text b => a == b
  | .int a, .int b => a == b
  | .bigint a, .bigint b => a == b
  | .float a, .float b => a.same b
  | .double a, .double b => a.same b
  | .timestamp a, .timestamp b => a == b
  | _, _ => false

end Value

/-- An operator between a column and a value. -/
inductive Comparison where
  | equal
  | less
  | atMost
  | greater
  | atLeast
deriving DecidableEq, Repr

/-- The operator as it is written. -/
def Comparison.symbol : Comparison → String
  | .equal => "="
  | .less => "<"
  | .atMost => "<="
  | .greater => ">"
  | .atLeast => ">="

/-- What a condition asks of one column. -/
inductive Test where
  | compares (operator : Comparison) (operand : Value)
  /-- The column has a value. -/
  | present
  /-- The column matches a regular expression. -/
  | matchesRegex (regex : String)

namespace Test

/-- The text of the test on a column. -/
def render (column : String) : Test → String
  | .compares operator _ => s!"{quote column} {operator.symbol} ?"
  | .present => s!"{quote column} IS NOT NULL"
  | .matchesRegex _ => s!"regexp_matches({quote column}, ?)"

/-- The value bound to the test's question mark. -/
def parameter? : Test → Option Value
  | .compares _ operand => some operand
  | .present => none
  | .matchesRegex regex => some (.text regex)

end Test

/-- A condition's text, and the values of its question marks. -/
structure Predicate where
  text : String
  parameters : List Value

namespace Predicate

/-- The condition that a column passes all these tests. -/
def ofTests (column : String) (tests : List Test) : Predicate where
  text := " AND ".intercalate (tests.map (·.render column))
  parameters := tests.filterMap (·.parameter?)

/-- Equal texts with equal values. -/
def same (a b : Predicate) : Bool :=
  a.text == b.text && a.parameters.length == b.parameters.length &&
    (List.zipWith Value.same a.parameters b.parameters).all id

end Predicate

end FieldSearch.Sql
