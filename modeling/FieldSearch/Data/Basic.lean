/-! # Plain data

The tree of values that programs exchange: null, truth values, numbers, strings, lists and records.
-/

namespace FieldSearch

/-- A value that programs exchange. -/
inductive Data where
  | null
  | bool (value : Bool)
  /-- The number `mantissa / 10 ^ places`. -/
  | number (mantissa : Int) (places : Nat)
  | string (text : String)
  | list (items : List Data)
  | record (members : List (String × Data))
deriving Inhabited

end FieldSearch
