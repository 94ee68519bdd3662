import FieldSearch.Regex.Search
import FieldSearch.WordPattern.Basic

/-! # Matching word patterns

A pattern is matched through its regular expression, which begins and, but for the beginning of a
word, ends at a boundary between words.
-/

namespace FieldSearch.WordPattern

/-- The characters of a word, each for itself. -/
def letters (word : String) : Regex :=
  word.toList.map .letter

/-- The piece that a character of a glob stands for. -/
def globPiece (c : Char) : Regex.Piece :=
  if c = '*' then .wordRun else if c = '?' then .wordChar else .letter c

/-- The regular expression of a pattern. -/
def regex : WordPattern → Regex
  | .word spelling => .wordStart :: letters spelling ++ [.wordEnd]
  | .phrase words => .wordStart :: List.intercalate [.gap] (words.map letters) ++ [.wordEnd]
  | .beginning stem => .wordStart :: letters stem
  | .glob pattern => .wordStart :: pattern.toList.map globPiece ++ [.wordEnd]

/-- Whether the pattern occurs in a text. -/
def occursIn (pattern : WordPattern) (text : String) : Except Fault Bool :=
  if pattern.regex.Compiles then .ok (pattern.regex.occursIn text.toList)
  else .error (.oversizedPattern Regex.sizeLimit)

end FieldSearch.WordPattern
