import FieldSearch.Fault
import FieldSearch.Text.Blank

/-! # Word patterns

A text field is searched for a word, a phrase, the beginning of a word, or a glob. A pattern is
written in a small grammar: quotes around a phrase, a star behind the beginning of a word, stars and
question marks inside a glob.
-/

namespace FieldSearch

open Text

/-- What a text field is searched for. -/
inductive WordPattern where
  | word (spelling : String)
  /-- Words in this order, with only white space between them. -/
  | phrase (words : List String)
  /-- The beginning of a word. -/
  | beginning (stem : String)
  /-- A word in which `*` stands for any run of word characters and `?` for one. -/
  | glob (pattern : String)
deriving DecidableEq, Repr

namespace WordPattern

/-- The two characters that stand for others in a glob. -/
def isWildcard (c : Char) : Bool :=
  c = '*' || c = '?'

/-- The text between two distinct quotes that enclose it. -/
def enclosed? : List Char → Option (List Char)
  | '"' :: rest => if rest.getLast? = some '"' then some rest.dropLast else none
  | _ => none

/-- The pattern of a quoted text. One word needs no phrase. -/
def ofQuoted (inner : List Char) : Except LiteralFault WordPattern :=
  match words inner with
  | [] => .error .emptyPhrase
  | [single] => .ok (.word (String.ofList single))
  | several => .ok (.phrase (several.map String.ofList))

/-- The stem in front of a star that is the only wildcard. -/
def stem? (text : List Char) : Option (List Char) :=
  if text.getLast? = some '*' ∧ text.dropLast ≠ [] ∧ text.dropLast.all (!isWildcard ·) then
    some text.dropLast
  else none

/-- The pattern of a text without quotes around it. -/
def ofPlain (text : List Char) : WordPattern :=
  if text.any isBlank then .phrase ((words text).map String.ofList)
  else
    match stem? text with
    | some stem => .beginning (String.ofList stem)
    | none =>
      if text.any isWildcard then .glob (String.ofList text) else .word (String.ofList text)

/-- The pattern that a text without white space around it is written for. -/
def ofTrimmed (text : List Char) : Except LiteralFault WordPattern :=
  if text = [] then .error .emptyText
  else
    match enclosed? text with
    | some inner => ofQuoted inner
    | none =>
      if text.head? = some '"' ∨ text.getLast? = some '"' then .error .unbalancedQuote
      else .ok (ofPlain text)

/-- Read a pattern. A fault carries the text as it was. -/
def read (text : String) : Except Fault WordPattern :=
  match ofTrimmed (trim text.toList) with
  | .ok pattern => .ok pattern
  | .error reason => .error (.invalidLiteral .text text reason)

/-- The text of a pattern. -/
def render : WordPattern → String
  | .word spelling => spelling
  | .phrase words => "\"" ++ " ".intercalate words ++ "\""
  | .beginning stem => stem ++ "*"
  | .glob pattern => pattern

end WordPattern

end FieldSearch
