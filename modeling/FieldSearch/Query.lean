import FieldSearch.Field
import FieldSearch.Literal
import FieldSearch.WordPattern.Matching

/-! # Queries

A query asks one column for a value, a range of values, or a word pattern. It is shown to users in
the notation of search engines and put to the database as a predicate.
-/

namespace FieldSearch

/-- An end of a range. -/
inductive Endpoint (α : Type) where
  | included (value : α)
  | excluded (value : α)
  | unbounded
deriving DecidableEq

/-- What is asked of a column. -/
inductive Query where
  | exact (column : String) (value : Literal)
  | range (column : String) (lower upper : Endpoint Literal)
  | words (column : String) (pattern : WordPattern)
deriving DecidableEq

namespace Endpoint

/-- The value at the end, if there is one. -/
def value? {α : Type} : Endpoint α → Option α
  | .included value | .excluded value => some value
  | .unbounded => none

/-- Whether the value at the end, if there is one, lies in the range. -/
def isInclusive {α : Type} : Endpoint α → Bool
  | .excluded _ => false
  | .included _ | .unbounded => true

/-- Both ends unbounded, or both closed in the same way with the same value. -/
def same : Endpoint Literal → Endpoint Literal → Bool
  | .included a, .included b => a.same b
  | .excluded a, .excluded b => a.same b
  | .unbounded, .unbounded => true
  | _, _ => false

/-- The value of an end, a star if there is none. -/
def renderValue (endpoint : Endpoint Literal) : String :=
  (endpoint.value?.map Literal.render).getD "*"

/-- The bracket in front of a range. -/
def opening : Endpoint Literal → String
  | .excluded _ => "\x7b"
  | .included _ | .unbounded => "["

/-- The bracket behind a range. -/
def closing : Endpoint Literal → String
  | .excluded _ => "\x7d"
  | .included _ | .unbounded => "]"

/-- What a lower end asks of a column, if anything. -/
def lowerTest : Endpoint Literal → List Sql.Test
  | .included value => [.compares .atLeast value.toSql]
  | .excluded value => [.compares .greater value.toSql]
  | .unbounded => []

/-- What an upper end asks of a column, if anything. -/
def upperTest : Endpoint Literal → List Sql.Test
  | .included value => [.compares .atMost value.toSql]
  | .excluded value => [.compares .less value.toSql]
  | .unbounded => []

end Endpoint

namespace Query

/-- The column that is asked. -/
def column : Query → String
  | .exact column _ | .range column _ _ | .words column _ => column

/-- The tests that a column has to pass. A range open at both ends asks for any value at all. -/
def tests : Query → List Sql.Test
  | .exact _ value => [.compares .equal value.toSql]
  | .range _ lower upper =>
    match lower.lowerTest ++ upper.upperTest with
    | [] => [.present]
    | tests => tests
  | .words _ pattern => [.matchesRegex pattern.regex.source]

/-- The query as the database sees it. -/
def predicate (query : Query) : Sql.Predicate :=
  .ofTests query.column query.tests

/-- The query as users see it. -/
def render : Query → String
  | .exact column value => s!"{column}:{value.render}"
  | .range column lower upper =>
    s!"{column}:{lower.opening}{lower.renderValue} TO {upper.renderValue}{upper.closing}"
  | .words column pattern => s!"{column}:{pattern.render}"

/-- Equal queries of one kind, values being compared as literals are. -/
def same : Query → Query → Bool
  | .exact c a, .exact d b => c == d && a.same b
  | .range c a b, .range d a' b' => c == d && a.same a' && b.same b'
  | .words c a, .words d b => c == d && a == b
  | _, _ => false

end Query

namespace Datatype

/-- Read the end of a range. No text, or the open mark itself, leaves the end open. -/
def readEndpoint (type : Datatype) (openMark : String) (text : Option String) (inclusive : Bool) :
    Except Fault (Endpoint Literal) :=
  match text with
  | none => .ok .unbounded
  | some text =>
    if text = openMark then .ok .unbounded
    else do
      let value ← Literal.read type text
      return if inclusive then .included value else .excluded value

/-- The range between two texts, the lower one being read first. -/
def readRange (type : Datatype) (settings : Settings) (column : String)
    (lower upper : Option String) (lowerInclusive upperInclusive : Bool) : Except Fault Query := do
  let lower ← type.readEndpoint settings.openMark lower lowerInclusive
  let upper ← type.readEndpoint settings.openMark upper upperInclusive
  return .range column lower upper

/-- The query for a text: a word pattern for analysed text, the exact value for all else. -/
def readTerm (type : Datatype) (column : String) (text : String) : Except Fault Query :=
  match type with
  | .text => do return .words column (← WordPattern.read text)
  | _ => do return .exact column (← Literal.read type text)

end Datatype

namespace Field

/-- The range of a field between two texts. -/
def readRange (field : Field) (settings : Settings) (lower upper : Option String)
    (lowerInclusive upperInclusive : Bool) : Except Fault Query :=
  field.type.readRange settings field.name lower upper lowerInclusive upperInclusive

/-- The range of a field between two ends, under the default settings. -/
def readRangeBetween (field : Field) (lower upper : Endpoint String) : Except Fault Query :=
  field.readRange {} lower.value? upper.value? lower.isInclusive upper.isInclusive

/-- The query for a text in a field. -/
def readTerm (field : Field) (text : String) : Except Fault Query :=
  field.type.readTerm field.name text

end Field

end FieldSearch
