import FieldSearch.Text.Reading

/-! # TOML layout

What may stand between the parts of a document: spaces and tabs, line ends, and comments.
-/

namespace FieldSearch.Toml

open Text

/-- A space or a tab. -/
def isSpace (c : Char) : Bool :=
  c = ' ' || c = '\t'

/-- A character that comments and strings may hold: any but the ASCII control characters, of which
only the tab is allowed. -/
def isPlain (c : Char) : Bool :=
  c = '\t' || (' ' ≤ c && c ≠ '\x7f')

/-- The text behind spaces and tabs. -/
def skipSpaces (text : List Char) : List Char :=
  text.dropWhile isSpace

/-- The text behind a line end, which is a line feed that a carriage return may precede. -/
def skipNewline? : List Char → Option (List Char)
  | '\n' :: rest => some rest
  | '\r' :: '\n' :: rest => some rest
  | _ => none

/-- The text behind any spaces, tabs, line ends and comments. The flag tells whether the text begins
inside a comment. -/
def skipLayout (inComment : Bool) : List Char → List Char
  | '\n' :: rest => skipLayout false rest
  | '\r' :: '\n' :: rest => skipLayout false rest
  | c :: rest =>
    if inComment then if isPlain c then skipLayout true rest else c :: rest
    else if c = '#' then skipLayout true rest
    else if isSpace c then skipLayout false rest
    else c :: rest
  | [] => []

/-- The text behind the end of a line, before which a comment may stand. The last line needs no line
end. -/
def skipLineEnd? (text : List Char) : Option (List Char) :=
  let text := match skipSpaces text with
    | '#' :: rest => rest.dropWhile isPlain
    | rest => rest
  if text = [] then some [] else skipNewline? text

end FieldSearch.Toml
