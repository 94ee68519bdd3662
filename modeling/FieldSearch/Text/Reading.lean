import FieldSearch.Text.Digits

/-! # Readings

A reading takes its part from the front of a text and leaves the rest, or finds nothing to take.
-/

namespace FieldSearch.Text

/-- What was read from the front of a text, and the rest of the text. -/
abbrev Reading (α : Type) := List Char → Option (α × List Char)

/-- The text behind a character that has to come first. -/
def skip? (expected : Char) : List Char → Option (List Char)
  | [] => none
  | c :: rest => if c = expected then some rest else none

/-- The text behind characters that have to come first. -/
def skipAll? : List Char → List Char → Option (List Char)
  | [], text => some text
  | c :: expected, text => (skip? c text).bind (skipAll? expected)

/-- A number of exactly this many digits. -/
def fixedNumber (width : Nat) : Reading Nat := fun text =>
  let field := text.take width
  if field.length = width ∧ field.all Char.isDigit then some (ofDigits field, text.drop width)
  else none

/-- A number of any number of digits. -/
def number : Reading Nat := fun text =>
  let field := text.takeWhile Char.isDigit
  if field = [] then none else some (ofDigits field, text.dropWhile Char.isDigit)

end FieldSearch.Text
