import FieldSearch.Text.WordRanges
import FieldSearch.Text.Range

/-! # Word characters

A word is a run of letters, marks, numbers and underscores. Everything else bounds it.
-/

namespace FieldSearch.Text

/-- A letter, mark or number of any script, or the underscore. -/
def isWordChar (c : Char) : Bool :=
  inRanges wordRanges c.toNat

end FieldSearch.Text
