import FieldSearch.Regex.Basic
import FieldSearch.Text.Digits
import Mathlib.Logic.Relation

/-! # Regular expressions as engines read them

An engine receives a regular expression as text. Here is the part of the documented syntax that word
patterns draw on (literals and their escapes, both anchors, classes of characters, groups, choice
and two repetitions), with a reader for it and the meaning of what is read. The reader refuses all
other syntax instead of guessing at it.

A place of a text is the part of it that is still ahead. An expression leads from the place where a
match begins to the places where it may end, so a sequence is a composition of relations and a
repetition is a closure. Which characters have a general category is left to a `CategoryTable`.
-/

namespace FieldSearch.Regex

open Text

/-- The general categories with a name of one letter that classes of characters refer to. -/
inductive Category where
  | letter
  | mark
  | number
  | separator
deriving DecidableEq, Repr

/-- The category of a one-letter name. -/
def Category.named? : Char → Option Category
  | 'L' => some .letter
  | 'M' => some .mark
  | 'N' => some .number
  | 'Z' => some .separator
  | _ => none

/-- The characters of each general category. Two of Unicode's own classes are made of them: words are
letters, marks, numbers and underscores, and white space is separators and six control characters. -/
structure CategoryTable where
  holds : Category → Char → Prop
  isWordChar_iff : ∀ c, isWordChar c = true ↔
    holds .letter c ∨ holds .mark c ∨ holds .number c ∨ c = '_'
  isBlank_iff : ∀ c, isBlank c = true ↔
    c ∈ ['\t', '\n', '\x0B', '\x0C', '\r', '\x85'] ∨ holds .separator c

/-- ASCII digits as the only numbers and no marks, with all other characters of words as letters. -/
def CategoryTable.coarse : CategoryTable where
  holds
    | .letter, c => isWordChar c = true ∧ c.isDigit = false ∧ c ≠ '_'
    | .mark, _ => False
    | .number, c => c.isDigit = true
    | .separator, c => isBlank c = true ∧ c ∉ ['\t', '\n', '\x0B', '\x0C', '\r', '\x85']
  isWordChar_iff c := by
    have digit (isDigit : c.isDigit = true) : isWordChar c = true := by
      simp only [Char.isDigit, Bool.and_eq_true, decide_eq_true_eq, ge_iff_le] at isDigit
      exact inRanges_iff.mpr ⟨(0x30, 0x39), List.mem_cons_self .., isDigit⟩
    have underscore (same : c = '_') : isWordChar c = true := by
      subst same
      decide
    by_cases isDigit : c.isDigit = true <;> by_cases same : c = '_' <;> simp_all
  isBlank_iff c := by
    have listed (member : c ∈ ['\t', '\n', '\x0B', '\x0C', '\r', '\x85']) : isBlank c = true := by
      simp only [List.mem_cons, List.not_mem_nil, or_false] at member
      rcases member with rfl | rfl | rfl | rfl | rfl | rfl <;> decide
    by_cases member : c ∈ ['\t', '\n', '\x0B', '\x0C', '\r', '\x85'] <;> simp_all

/-- What a class of characters lists. -/
inductive ClassItem where
  | char (c : Char)
  | category (name : Category)

/-- A regular expression. -/
inductive Expression where
  | empty
  | literal (c : Char)
  | charClass (negated : Bool) (items : List ClassItem)
  | startOfText
  | endOfText
  | sequence (first second : Expression)
  | either (first second : Expression)
  | star (inner : Expression)
  | plus (inner : Expression)

/-- A regular expression, and whether the case of letters counts for nothing in it. -/
structure Compiled where
  ignoresCase : Bool
  body : Expression

namespace ClassItem

/-- The characters of an item. -/
def Holds (table : CategoryTable) : ClassItem → Char → Prop
  | .char c, d => c = d
  | .category name, d => table.holds name d

end ClassItem

namespace Expression

/-- The expressions of a list, one behind the other. -/
def concat : List Expression → Expression :=
  List.foldr sequence empty

/-- The places to which an expression leads in a text. A class first takes in whatever is the same
as one of its characters, and is negated after that. -/
def Leads (table : CategoryTable) (same : Char → Char → Prop) (text : List Char) :
    Expression → List Char → List Char → Prop
  | .empty => fun place next => next = place
  | .literal c => fun place next => ∃ d, place = d :: next ∧ same c d
  | .charClass negated items => fun place next => ∃ d, place = d :: next ∧
      ((∃ item ∈ items, ∃ c, item.Holds table c ∧ same c d) ↔ negated = false)
  | .startOfText => fun place next => place = text ∧ next = place
  | .endOfText => fun place next => place = [] ∧ next = place
  | .sequence first second =>
      Relation.Comp (first.Leads table same text) (second.Leads table same text)
  | .either first second => fun place next =>
      first.Leads table same text place next ∨ second.Leads table same text place next
  | .star inner => Relation.ReflTransGen (inner.Leads table same text)
  | .plus inner => Relation.TransGen (inner.Leads table same text)

end Expression

namespace Compiled

/-- Whether two characters are the same to the expression. -/
def Same (compiled : Compiled) (c d : Char) : Prop :=
  if compiled.ignoresCase then sameLetter c d = true else c = d

/-- The expression matches somewhere in the text. -/
def OccursIn (table : CategoryTable) (compiled : Compiled) (text : List Char) : Prop :=
  ∃ before place next, text = before ++ place ∧
    compiled.body.Leads table compiled.Same text place next

end Compiled

/-! ## Reading -/

/-- The tokens of a regular expression. A class of characters is one token. -/
inductive Token where
  | opening
  | closing
  | bar
  | star
  | plus
  | atom (expression : Expression)

/-- The character whose code is written in two hexadecimal digits. -/
def hexPair? (high low : Char) : Option Char := do
  let high ← hexDigit? high
  let low ← hexDigit? low
  return Char.ofNat (16 * high + low)

/-- A class of characters of which some items are read, the last one first. -/
structure OpenClass where
  negated : Bool
  items : List ClassItem

/-- The class with one more item. -/
def OpenClass.push (pending : OpenClass) (item : ClassItem) : OpenClass :=
  { pending with items := item :: pending.items }

/-- Cut a text into tokens, inside a class of characters or outside of one. -/
def tokens? : Option OpenClass → List Char → Option (List Token)
  | none, [] => some []
  | none, c :: rest =>
    if c ∉ metaCharacters then (tokens? none rest).map (.atom (.literal c) :: ·)
    else match c, rest with
      | '\\', c :: rest =>
        if c ∈ metaCharacters then (tokens? none rest).map (.atom (.literal c) :: ·) else none
      | '(', '?' :: ':' :: rest => (tokens? none rest).map (.opening :: ·)
      | ')', rest => (tokens? none rest).map (.closing :: ·)
      | '|', rest => (tokens? none rest).map (.bar :: ·)
      | '*', rest => (tokens? none rest).map (.star :: ·)
      | '+', rest => (tokens? none rest).map (.plus :: ·)
      | '^', rest => (tokens? none rest).map (.atom .startOfText :: ·)
      | '$', rest => (tokens? none rest).map (.atom .endOfText :: ·)
      | '[', '^' :: rest => tokens? (some ⟨true, []⟩) rest
      | '[', rest => tokens? (some ⟨false, []⟩) rest
      | _, _ => none
  | some _, [] => none
  | some pending, c :: rest =>
    if c ∉ metaCharacters then tokens? (some (pending.push (.char c))) rest
    else match c, rest with
      | ']', rest =>
        if pending.items.isEmpty then none
        else (tokens? none rest).map (.atom (.charClass pending.negated pending.items.reverse) :: ·)
      | '\\', 'p' :: '\x7b' :: name :: '\x7d' :: rest =>
        (Category.named? name).bind fun category =>
          tokens? (some (pending.push (.category category))) rest
      | '\\', 'x' :: '\x7b' :: high :: low :: '\x7d' :: rest =>
        (hexPair? high low).bind fun c => tokens? (some (pending.push (.char c))) rest
      | '\\', 'x' :: high :: low :: rest =>
        (hexPair? high low).bind fun c => tokens? (some (pending.push (.char c))) rest
      | '\\', 't' :: rest => tokens? (some (pending.push (.char '\t'))) rest
      | '\\', 'n' :: rest => tokens? (some (pending.push (.char '\n'))) rest
      | '\\', 'f' :: rest => tokens? (some (pending.push (.char '\x0C'))) rest
      | '\\', 'r' :: rest => tokens? (some (pending.push (.char '\r'))) rest
      | _, _ => none

/-- A group of which some is read: its finished alternatives, and the expressions of the one that is
not finished, either with the last one first. -/
structure Group where
  alternatives : List Expression
  current : List Expression

namespace Group

/-- The group with one more expression. -/
def push (group : Group) (expression : Expression) : Group :=
  { group with current := expression :: group.current }

/-- The group with its alternative finished. -/
def bar (group : Group) : Group :=
  ⟨.concat group.current.reverse :: group.alternatives, []⟩

/-- The expression of a finished group. -/
def close (group : Group) : Expression :=
  group.alternatives.foldl (fun later earlier => .either earlier later)
    (.concat group.current.reverse)

/-- The group with its last expression repeated. -/
def repeat? (repetition : Expression → Expression) (group : Group) : Option Group :=
  match group.current with
  | [] => none
  | last :: earlier => some { group with current := repetition last :: earlier }

end Group

/-- Build the expression of some tokens, behind what is read of the group and of those around it. -/
def build? : List Token → Group → List Group → Option Expression
  | [], group, [] => some group.close
  | [], _, _ :: _ => none
  | .opening :: rest, group, outer => build? rest ⟨[], []⟩ (group :: outer)
  | .closing :: rest, group, around :: outer => build? rest (around.push group.close) outer
  | .closing :: _, _, [] => none
  | .bar :: rest, group, outer => build? rest group.bar outer
  | .star :: rest, group, outer => (group.repeat? .star).bind (build? rest · outer)
  | .plus :: rest, group, outer => (group.repeat? .plus).bind (build? rest · outer)
  | .atom expression :: rest, group, outer => build? rest (group.push expression) outer

/-- Read the expression of a text. -/
def expression? (text : List Char) : Option Expression :=
  (tokens? none text).bind (build? · ⟨[], []⟩ [])

/-- Read a regular expression. Case counts unless the text begins by saying otherwise. -/
def read? : List Char → Option Compiled
  | '(' :: '?' :: 'i' :: ')' :: text => (expression? text).map (⟨true, ·⟩)
  | text => (expression? text).map (⟨false, ·⟩)

end FieldSearch.Regex
