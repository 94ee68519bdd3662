import FieldSearch.Text.Blank
import FieldSearch.Text.CaseFold
import FieldSearch.Text.WordChar

/-! # Regular expressions for words

The regular expressions of text queries are sequences of six pieces, matched without regard to
case. A piece is written as text for the database and matched here against a text. Both views read
the same sequence.
-/

namespace FieldSearch

/-- A part of a regular expression. -/
inductive Regex.Piece where
  /-- The start of the text, or a character that is not part of a word. -/
  | wordStart
  /-- This character, in either case. -/
  | letter (c : Char)
  /-- One character of a word. -/
  | wordChar
  /-- Any number of characters of a word. -/
  | wordRun
  /-- White space, one character or more. -/
  | gap
  /-- A character that is not part of a word, or the end of the text. -/
  | wordEnd
deriving DecidableEq, Repr

/-- A sequence of pieces, one behind the other. -/
abbrev Regex := List Regex.Piece

namespace Regex

/-- Characters that have a meaning in regular expressions. -/
def metaCharacters : List Char :=
  "\\.+*?()|[]\x7b\x7d^$#&-~".toList

/-- A character that stands for itself. -/
def escape (c : Char) : List Char :=
  if c ∈ metaCharacters then ['\\', c] else [c]

/-- The class of a general category. -/
def category (name : String) : String :=
  "\\p\x7b" ++ name ++ "\x7d"

/-- What a class of word characters holds. -/
def wordClass : String :=
  category "L" ++ category "M" ++ category "N" ++ "_"

/-- The class of white space. -/
def blankClass : String :=
  "\\t\\n\\x0B\\f\\r\\x\x7b85\x7d" ++ category "Z"

/-- The text of a piece. -/
def Piece.source : Piece → List Char
  | .wordStart => ("(?:^|[^" ++ wordClass ++ "])").toList
  | .letter c => escape c
  | .wordChar => ("[" ++ wordClass ++ "]").toList
  | .wordRun => ("[" ++ wordClass ++ "]*").toList
  | .gap => ("[" ++ blankClass ++ "]+").toList
  | .wordEnd => ("(?:[^" ++ wordClass ++ "]|$)").toList

/-- The text of a regular expression. -/
def source (regex : Regex) : String :=
  String.ofList ("(?i)".toList ++ regex.flatMap Piece.source)

/-- The bytes to which a class of word characters compiles, roughly. -/
def wordClassBytes : Nat := 52000

/-- The bytes to which a compiled regular expression may grow. -/
def sizeLimit : Nat := 10485760

/-- Whether the piece holds a class of word characters. -/
def Piece.hasWordClass : Piece → Bool
  | .wordStart | .wordChar | .wordRun | .wordEnd => true
  | .letter _ | .gap => false

/-- The classes of word characters, which list every script, leave the compiled regular expression within
the limit. Nothing else is counted, so this holds wherever an engine really compiles the expression and
not only there: a text of millions of letters passes here and exceeds the limit of the engine. -/
def Compiles (regex : Regex) : Prop :=
  regex.countP Piece.hasWordClass * wordClassBytes ≤ sizeLimit

instance (regex : Regex) : Decidable regex.Compiles := by
  unfold Compiles; infer_instance

end Regex

end FieldSearch
