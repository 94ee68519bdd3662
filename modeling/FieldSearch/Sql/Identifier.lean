/-! # Quoted identifiers

Any text can name a column: it is put between double quotes, and a double quote inside it is
written twice.
-/

namespace FieldSearch.Sql

/-- Write every double quote twice. -/
def doubleQuotes : List Char → List Char
  | [] => []
  | c :: rest => if c = '"' then '"' :: '"' :: doubleQuotes rest else c :: doubleQuotes rest

/-- The identifier of a column. -/
def quote (name : String) : String :=
  "\"" ++ String.ofList (doubleQuotes name.toList) ++ "\""

end FieldSearch.Sql
