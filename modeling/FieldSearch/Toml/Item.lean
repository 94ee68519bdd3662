/-! # TOML items

A document is a table of named items. Tables come about in different ways, and the way decides how
they may be added to later: a header opens a table once, a longer header implies the tables on its
way, and a dotted key makes tables that only dotted keys extend.
-/

namespace FieldSearch.Toml

/-- How a table came about. -/
inductive Origin where
  /-- A header names it, or it is an element of an array of tables. -/
  | header
  /-- It lies on the way to a table that a header names. -/
  | implied
  /-- It lies on the way to the last part of a dotted key. -/
  | dotted
deriving DecidableEq, Repr

/-- What a key stands for. -/
inductive Item where
  | string (text : String)
  /-- A number, a truth value, a date or a time. -/
  | scalar
  | array (items : List Item)
  /-- A table written between braces, which nothing extends. -/
  | inlineTable (entries : List (String × Item))
  | table (origin : Origin) (entries : List (String × Item))
  /-- An array of tables, each opened by a header of its own. -/
  | tables (elements : List (List (String × Item)))

/-- The items of a table by their keys, in the order of their first mention. -/
abbrev Entries := List (String × Item)

namespace Entries

/-- The item of a key. -/
def get? (key : String) (entries : Entries) : Option Item :=
  entries.lookup key

/-- The entries with another item for a key that is there, or with a new one behind the others. -/
def set (key : String) (item : Item) : Entries → Entries
  | [] => [(key, item)]
  | entry :: rest => if entry.1 = key then (key, item) :: rest else entry :: set key item rest

/-- Change the table at the end of a path, making the tables on the way that are not there yet.
An array of tables stands for its last element. Dotted keys may not pass through a table that a
header names, and nothing passes through a value. -/
def descend (byDots : Bool) (change : Origin → Entries → Option Entries) :
    Origin → List String → Entries → Option Entries
  | origin, [], entries => change origin entries
  | _, key :: path, entries =>
    match get? key entries with
    | none => do
      let origin := if byDots then Origin.dotted else Origin.implied
      let made ← descend byDots change origin path []
      return set key (.table origin made) entries
    | some (.table origin inner) =>
      if byDots ∧ origin = .header then none
      else do
        let changed ← descend byDots change origin path inner
        return set key (.table origin changed) entries
    | some (.tables elements) => do
      let changed ← descend byDots change .header path (← elements.getLast?)
      return set key (.tables (elements.dropLast ++ [changed])) entries
    | some _ => none

/-- Give an item to a dotted key. The key may not be there yet, and a table reached by dots has to
have been made by dots. -/
def assign (path : List String) (key : String) (item : Item) (origin : Origin)
    (entries : Entries) : Option Entries :=
  descend true (fun origin entries =>
    if (origin = .dotted ↔ path = []) ∨ (get? key entries).isSome then none
    else some (set key item entries)) origin path entries

/-- Open the table that a header names: one not there yet, or one that a longer header implied. -/
def openTable (path : List String) (key : String) : Entries → Option Entries :=
  descend false (fun _ entries =>
    match get? key entries with
    | none => some (set key (.table .header []) entries)
    | some (.table .implied inner) => some (set key (.table .header inner) entries)
    | some _ => none) .header path

/-- Open another element of an array of tables. -/
def openElement (path : List String) (key : String) : Entries → Option Entries :=
  descend false (fun _ entries =>
    match get? key entries with
    | none => some (set key (.tables [[]]) entries)
    | some (.tables elements) => some (set key (.tables (elements ++ [[]])) entries)
    | some _ => none) .header path

end Entries

end FieldSearch.Toml
