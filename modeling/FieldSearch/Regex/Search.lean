import FieldSearch.Regex.Basic

/-! # Searching a text

A regular expression is matched from its end. For each place of the text, a row tells whether the
pieces so far match there, with anything behind them. Putting a piece in front turns the row of the
rest into its own, so the search takes one pass over the text for each piece, whatever its runs.
-/

namespace FieldSearch.Regex

open Text

/-- One answer for each place of a text, its end included. -/
abbrev Row := List Bool

/-- The places with a character of the class, behind which the row says yes. -/
def consume (inClass : Char → Bool) : List Char → Row → Row
  | c :: text, _ :: row => (inClass c && row.headD false) :: consume inClass text row
  | _, _ => [false]

/-- The places from which characters of the class lead to one where the row says yes. -/
def consumeMany (inClass : Char → Bool) : List Char → Row → Row
  | c :: text, answer :: row =>
    let later := consumeMany inClass text row
    (answer || (inClass c && later.headD false)) :: later
  | _, row => row

/-- The row with another answer for the start of the text. -/
def atStart (answer : Bool) : Row → Row
  | [] => []
  | here :: row => (here || answer) :: row

/-- The row with another answer for the end of the text. -/
def atEnd (answer : Bool) : Row → Row
  | [] => []
  | [here] => [here || answer]
  | here :: row => here :: atEnd answer row

/-- Neither a letter nor any other character of a word. -/
def isBoundary (c : Char) : Bool :=
  !isWordChar c

/-- The row of a piece, from the row of what is behind it. -/
def Piece.row (text : List Char) (row : Row) : Piece → Row
  | .wordStart => atStart (row.headD false) (consume isBoundary text row)
  | .letter c => consume (sameLetter c) text row
  | .wordChar => consume isWordChar text row
  | .wordRun => consumeMany isWordChar text row
  | .gap => consume isBlank text (consumeMany isBlank text row)
  | .wordEnd => atEnd (row.getLastD false) (consume isBoundary text row)

/-- The row of a regular expression. -/
def row (text : List Char) : Regex → Row
  | [] => List.replicate (text.length + 1) true
  | piece :: rest => piece.row text (row text rest)

/-- Whether the regular expression matches anywhere in the text. -/
def occursIn (regex : Regex) (text : List Char) : Bool :=
  (row text regex).any id

end FieldSearch.Regex
