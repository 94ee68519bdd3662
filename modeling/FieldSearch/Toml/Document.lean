import FieldSearch.Toml.Item
import FieldSearch.Toml.Scalar

/-! # TOML documents

A document is read line by line: a header opens a table, and the lines below it give items to keys
in that table. Keys may be dotted, and tables are extended only as their origin allows.
-/

namespace FieldSearch.Toml

open Text

/-- How deep values may nest, and how many parts a key may have. -/
def nestingLimit : Nat := 79

/-- A character of a key without quotes. -/
def isBareKey (c : Char) : Bool :=
  c.isAlphanum || c = '-' || c = '_'

/-- One part of a key. -/
def readKeyPart (text : List Char) : Option (String × List Char) :=
  match text with
  | '"' :: _ | '\'' :: _ => (readLine text).map fun (key, rest) => (String.ofList key, rest)
  | _ =>
    let key := text.takeWhile isBareKey
    if key = [] then none else some (String.ofList key, text.dropWhile isBareKey)

/-- The parts of a key, with points between them and spaces around each, and no more parts than
this. The result is the path of all parts but the last, and the last. -/
def readKey : Nat → Reading (List String × String)
  | 0, _ => none
  | parts + 1, text => do
    let (part, rest) ← readKeyPart (skipSpaces text)
    match skipSpaces rest with
    | '.' :: rest =>
      let ((path, key), rest) ← readKey parts rest
      return ((part :: path, key), rest)
    | rest => return (([], part), rest)

mutual

/-- A value, in which arrays and tables nest no deeper than this. The first number bounds the steps
of the reading, each of which takes a character. -/
def readValue : Nat → Nat → Reading Item
  | 0, _, _ => none
  | steps + 1, depth, text =>
    match text with
    | '"' :: _ | '\'' :: _ =>
      (readString text).map fun (value, rest) => (.string (String.ofList value), rest)
    | '[' :: rest =>
      match depth with
      | 0 => none
      | depth + 1 => do
        let (items, rest) ← readItems steps depth (skipLayout false rest)
        return (.array items, rest)
    | '\x7b' :: rest =>
      match depth with
      | 0 => none
      | depth + 1 => do
        let (entries, rest) ←
          match skipSpaces rest with
          | '\x7d' :: rest => some ([], rest)
          | rest => readEntries steps depth [] rest
        return (.inlineTable entries, rest)
    | _ => (skipScalar? text).map fun rest => (.scalar, rest)

/-- The items of an array up to its closing bracket. The last may have a comma behind it. -/
def readItems : Nat → Nat → Reading (List Item)
  | 0, _, _ => none
  | steps + 1, depth, text =>
    match text with
    | ']' :: rest => some ([], rest)
    | _ => do
      let (item, rest) ← readValue steps depth text
      match skipLayout false rest with
      | ',' :: rest =>
        let (items, rest) ← readItems steps depth (skipLayout false rest)
        return (item :: items, rest)
      | ']' :: rest => some ([item], rest)
      | _ => none

/-- The entries of an inline table up to its closing brace, on one line and with a comma between any
two. -/
def readEntries : Nat → Nat → Entries → Reading Entries
  | 0, _, _, _ => none
  | steps + 1, depth, entries, text => do
    let ((path, key), rest) ← readKey nestingLimit text
    let (item, rest) ← readValue steps depth (skipSpaces (← skip? '=' rest))
    let entries ← entries.assign path key item .header
    match skipSpaces rest with
    | ',' :: rest => readEntries steps depth entries rest
    | '\x7d' :: rest => some (entries, rest)
    | _ => none

end

/-- A document as far as it is read: its entries, and the path of the table that the last header
opened. -/
structure Draft where
  root : Entries := []
  current : List String := []

namespace Draft

/-- Give an item to a dotted key in the current table. -/
def assign (draft : Draft) (path : List String) (key : String) (item : Item) : Option Draft := do
  let root ← draft.root.descend false (Entries.assign path key item) .header draft.current
  return { draft with root }

/-- Read a line that opens a table, behind its first bracket. -/
def readHeader (draft : Draft) (text : List Char) : Option (Draft × List Char) :=
  match text with
  | '[' :: rest => do
    let ((path, key), rest) ← readKey nestingLimit rest
    let rest ← skipLineEnd? (← skip? ']' (← skip? ']' rest))
    return (⟨← draft.root.openElement path key, path ++ [key]⟩, rest)
  | _ => do
    let ((path, key), rest) ← readKey nestingLimit text
    let rest ← skipLineEnd? (← skip? ']' rest)
    return (⟨← draft.root.openTable path key, path ++ [key]⟩, rest)

/-- Read a line that gives an item to a key. -/
def readAssignment (draft : Draft) (text : List Char) : Option (Draft × List Char) := do
  let ((path, key), rest) ← readKey nestingLimit text
  let rest := skipSpaces (← skip? '=' rest)
  let (item, rest) ← readValue (rest.length + 1) nestingLimit rest
  let rest ← skipLineEnd? rest
  return (← draft.assign path key item, rest)

/-- Read the lines of a document. The number bounds their count. -/
def readLines : Nat → Draft → List Char → Option Entries
  | 0, _, _ => none
  | lines + 1, draft, text =>
    match skipLayout false text with
    | [] => some draft.root
    | '[' :: rest => do
      let (draft, rest) ← draft.readHeader rest
      readLines lines draft rest
    | text => do
      let (draft, rest) ← draft.readAssignment text
      readLines lines draft rest

end Draft

/-- The entries of a document. A byte order mark may come first. -/
def readDocument (text : List Char) : Option Entries :=
  let text := if text.head? = some '\ufeff' then text.tail else text
  Draft.readLines (text.length + 1) {} text

end FieldSearch.Toml
