import FieldSearch.Field
import FieldSearch.Sql.Identifier
import FieldSearch.Text.Blank

/-! # Sort keys

Results are sorted by a list of keys, written with commas between them: the relevance of a hit, its
place in the index, or a field. A backslash in front reverses a key.
-/

namespace FieldSearch

open Text

/-- What results are sorted by. -/
inductive SortTarget where
  /-- How well a hit fits, the best first. -/
  | score
  /-- The place of a hit in the index. -/
  | document
  /-- The values of a field, the smallest first. -/
  | values (field : Field)
deriving DecidableEq

/-- A target, in its own direction or reversed. -/
structure SortKey where
  target : SortTarget
  reversed : Bool
deriving DecidableEq

namespace SortTarget

/-- The kind of key, if the target is a field. -/
def keyType? : SortTarget → Option KeyType
  | .values field => some field.keyType
  | .score | .document => none

/-- The target as it is written in a sort specification. -/
def render : SortTarget → String
  | .score => "<score>"
  | .document => "<doc>"
  | .values field => field.render

/-- Read a target. Its two reserved names are no field references. -/
def read (settings : Settings) (text : String) : Except Fault SortTarget :=
  if text = "<score>" then .ok .score
  else if text = "<doc>" then .ok .document
  else do return .values (← Field.read settings text)

/-- The expression by which the database sorts. -/
def expression : SortTarget → String
  | .score => "\"score\""
  | .document => "rowid"
  | .values field =>
    let column := Sql.quote field.name
    match field.type with
    | .text | .string => s!"TRY_CAST({column} AS VARCHAR)"
    | .int => s!"TRY_CAST({column} AS INTEGER)"
    | .long => s!"TRY_CAST({column} AS BIGINT)"
    | .float => s!"TRY_CAST({column} AS FLOAT)"
    | .double => s!"TRY_CAST({column} AS DOUBLE)"
    | .date => s!"epoch_ms(TRY_CAST({column} AS TIMESTAMP))"

end SortTarget

namespace SortKey

/-- The key as it is written in a sort specification. -/
def render (key : SortKey) : String :=
  if key.reversed then "\\" ++ key.target.render else key.target.render

/-- Split the backslash of a reversed key from its target. -/
def splitReversed : List Char → Bool × List Char
  | '\\' :: target => (true, target)
  | target => (false, target)

/-- Read one entry. White space around it does not count, and its target may not be empty. -/
def read (settings : Settings) (entry : String) : Except Fault SortKey :=
  let trimmed := trim entry.toList
  let (reversed, target) := splitReversed trimmed
  if target = [] then .error (.emptySortEntry (String.ofList trimmed))
  else do
    let target ← SortTarget.read settings (String.ofList target)
    return ⟨target, reversed⟩

/-- An empty entry makes the whole specification malformed. -/
def blame (spec : String) : Fault → Fault
  | .emptySortEntry _ => .emptySortEntry spec
  | fault => fault

/-- Read a specification: entries with commas between them. The first entry at fault decides. -/
def readAll (settings : Settings) (spec : String) : Except Fault (List SortKey) :=
  (spec.toList.splitOn ',').mapM fun entry =>
    (read settings (String.ofList entry)).mapError (blame spec)

/-- The specification of a list of keys. -/
def renderAll (keys : List SortKey) : String :=
  ",".intercalate (keys.map render)

/-- The best hits come first and all else in ascending order, unless the key is reversed. Hits
without a value in a field come last either way. -/
def term (key : SortKey) : String :=
  let descending := match key.target with
    | .score => !key.reversed
    | .document | .values _ => key.reversed
  let direction := if descending then "DESC" else "ASC"
  let nulls := match key.target with
    | .values _ => " NULLS LAST"
    | .score | .document => ""
  s!"{key.target.expression} {direction}{nulls}"

/-- The clause that sorts by the keys, or nothing if there are none. -/
def orderBy : List SortKey → String
  | [] => ""
  | keys => "ORDER BY " ++ ", ".intercalate (keys.map term)

end SortKey

end FieldSearch
