import FieldSearch.Proofs.Text.Run
import FieldSearch.Sql.Identifier
import FieldSearch.Text.Reading
import Mathlib.Logic.Function.Basic

/-! # Reading quoted identifiers

A database reads an identifier from its opening quote up to the first quote that is not written
twice. What is quoted reads back whole, so long as no further quote follows it, and nothing else reads as
the name that was quoted. So quoted names are told apart by themselves, whatever else comes behind them.
-/

namespace FieldSearch.Sql

open Text

/-- The rest of an identifier behind its opening quote, in which two quotes stand for one. -/
def unquote? : Reading (List Char)
  | [] => none
  | '"' :: '"' :: text => (unquote? text).map fun (name, rest) => ('"' :: name, rest)
  | '"' :: text => some ([], text)
  | c :: text => (unquote? text).map fun (name, rest) => (c :: name, rest)

private theorem unquote?_cons {c : Char} (other : c ≠ '"') (text : List Char) :
    unquote? (c :: text) = (unquote? text).map fun (name, rest) => (c :: name, rest) := by
  simp [unquote?, other]

private theorem unquote?_closed {rest : List Char} (closed : rest.head? ≠ some '"') :
    unquote? ('"' :: rest) = some ([], rest) := by
  cases rest with
  | nil => rfl
  | cons c rest =>
    have other : c ≠ '"' := fun same => closed (same ▸ rfl)
    simp [unquote?, other]

/-- Behind the opening quote, a quoted name reads back up to its closing quote. -/
theorem unquote?_doubleQuotes (name : List Char) {rest : List Char}
    (closed : rest.head? ≠ some '"') :
    unquote? (doubleQuotes name ++ '"' :: rest) = some (name, rest) := by
  induction name with
  | nil => exact unquote?_closed closed
  | cons c name ih =>
    by_cases quote : c = '"'
    · subst quote
      rw [doubleQuotes, if_pos rfl, List.cons_append, List.cons_append, unquote?, ih]
      rfl
    · rw [doubleQuotes, if_neg quote, List.cons_append, unquote?_cons quote, ih]
      rfl

theorem toList_quote (name : String) :
    (quote name).toList = '"' :: (doubleQuotes name.toList ++ ['"']) := by
  have mark : "\"".toList = ['"'] := by decide
  simp [quote, mark]

/-- What is read behind an opening quote is a name with its quotes doubled, up to a quote that stands for
itself. -/
theorem eq_doubleQuotes_of_unquote? {text name rest : List Char}
    (read : unquote? text = some (name, rest)) :
    text = doubleQuotes name ++ '"' :: rest ∧ rest.head? ≠ some '"' := by
  -- The induction is on the scanner's own steps. A run of quotes is taken two by two from its front.
  fun_induction unquote? text generalizing name with
  | case1 => cases read
  | case2 text ih =>
    obtain ⟨⟨inner, _⟩, behind, same⟩ := Option.map_eq_some_iff.mp read
    cases same
    obtain ⟨rfl, closed⟩ := ih behind
    refine ⟨?_, closed⟩
    rw [doubleQuotes, if_pos rfl]
    rfl
  | case3 text notTwice =>
    cases read
    refine ⟨rfl, ?_⟩
    intro again
    obtain ⟨more, rfl⟩ := List.head?_eq_some_iff.mp again
    exact notTwice more rfl
  | case4 c text _ notQuote ih =>
    obtain ⟨⟨inner, _⟩, behind, same⟩ := Option.map_eq_some_iff.mp read
    cases same
    obtain ⟨rfl, closed⟩ := ih behind
    refine ⟨?_, closed⟩
    rw [doubleQuotes, if_neg notQuote]
    rfl

/-- The identifier that is opened by the first quote of a text, and what comes behind it. -/
def firstIdentifier? (text : List Char) : Option (String × List Char) :=
  match text.dropWhile (· ≠ '"') with
  | [] => none
  | _ :: opened => (unquote? opened).map fun (name, rest) => (String.ofList name, rest)

private theorem firstIdentifier?_append {front : List Char} (plain : '"' ∉ front)
    (opened : List Char) : firstIdentifier? (front ++ '"' :: opened) =
      (unquote? opened).map fun (name, rest) => (String.ofList name, rest) := by
  have inFront : ∀ c ∈ front, decide (c ≠ '"') = true := by
    intro c member
    apply decide_eq_true
    rintro rfl
    exact plain member
  have stops : ∀ c ∈ ('"' :: opened).head?, decide (c ≠ '"') = false := by
    rintro _ ⟨⟩
    decide
  rw [firstIdentifier?, dropWhile_append_stop inFront stops]

/-- A quoted name in front of anything but a further quote is scanned whole. -/
private theorem firstIdentifier?_quote (name : String) {rest : List Char}
    (closed : rest.head? ≠ some '"') :
    firstIdentifier? ((quote name).toList ++ rest) = some (name, rest) := by
  calc firstIdentifier? ((quote name).toList ++ rest)
      = firstIdentifier? ([] ++ '"' :: (doubleQuotes name.toList ++ '"' :: rest)) := by
        rw [toList_quote, List.cons_append, List.append_assoc]
        rfl
    _ = some (String.ofList name.toList, rest) := by
        rw [firstIdentifier?_append List.not_mem_nil, unquote?_doubleQuotes _ closed]
        rfl
    _ = some (name, rest) := by rw [String.ofList_toList]

/-- Nothing but its quotation is scanned as a name. -/
private theorem eq_append_quote_of_firstIdentifier? {text rest : List Char} {name : String}
    (scanned : firstIdentifier? text = some (name, rest)) :
    ∃ front, '"' ∉ front ∧ text = front ++ ((quote name).toList ++ rest) ∧ rest.head? ≠ some '"' := by
  obtain ⟨front, behind, rfl, inFront, stops⟩ := exists_run (fun c => decide (c ≠ '"')) text
  have plain : '"' ∉ front := by
    intro member
    exact of_decide_eq_true (inFront '"' member) rfl
  cases behind with
  | nil =>
    rw [firstIdentifier?, List.append_nil, List.dropWhile_eq_nil_iff.mpr inFront] at scanned
    cases scanned
  | cons c opened =>
    obtain rfl : c = '"' := of_not_not (of_decide_eq_false (stops c rfl))
    rw [firstIdentifier?_append plain] at scanned
    obtain ⟨⟨inner, _⟩, unquoted, same⟩ := Option.map_eq_some_iff.mp scanned
    cases same
    obtain ⟨rfl, closed⟩ := eq_doubleQuotes_of_unquote? unquoted
    refine ⟨front, plain, ?_, closed⟩
    rw [toList_quote, String.toList_ofList, List.cons_append, List.append_assoc]
    rfl

private theorem quote_append_inj {name other : String} {rest more : List Char}
    (closed : rest.head? ≠ some '"') (otherClosed : more.head? ≠ some '"')
    (same : (quote name).toList ++ rest = (quote other).toList ++ more) :
    name = other ∧ rest = more := by
  have scanned := firstIdentifier?_quote name closed
  rw [same, firstIdentifier?_quote other otherClosed] at scanned
  cases scanned
  exact ⟨rfl, rfl⟩

/-- A quoted name is scanned whole, and leaves what comes behind it, unless that is a further quote. Nothing
else is scanned as the name. So no two names are quoted alike, and quoted names in front of anything but a
quote come apart in one way only. -/
theorem quote_prefix_code :
    (∀ (name : String) (rest : List Char), rest.head? ≠ some '"' →
      firstIdentifier? ((quote name).toList ++ rest) = some (name, rest)) ∧
    (∀ (text rest : List Char) (name : String), firstIdentifier? text = some (name, rest) →
      ∃ front, '"' ∉ front ∧ text = front ++ ((quote name).toList ++ rest) ∧
        rest.head? ≠ some '"') ∧
    Function.Injective quote ∧
    ∀ (name other : String) (rest more : List Char), rest.head? ≠ some '"' →
      more.head? ≠ some '"' → (quote name).toList ++ rest = (quote other).toList ++ more →
      name = other ∧ rest = more := by
  refine ⟨?_, ?_, ?_, ?_⟩
  · intro name rest closed
    exact firstIdentifier?_quote name closed
  · intro text rest name scanned
    exact eq_append_quote_of_firstIdentifier? scanned
  · intro name other same
    have nothing : ([] : List Char).head? ≠ some '"' := by decide
    have texts : (quote name).toList ++ [] = (quote other).toList ++ [] := by rw [same]
    exact (quote_append_inj nothing nothing texts).1
  · intro name other rest more closed otherClosed same
    exact quote_append_inj closed otherClosed same

/-- A name may begin and end with quotes, and one that is cut off at a quote of another is told apart from
it. -/
theorem quote_prefix_code_of_quotes :
    [' ', '='].head? ≠ some '"' ∧
    firstIdentifier? ((quote "\"a\"\"").toList ++ [' ', '=']) = some ("\"a\"\"", [' ', '=']) ∧
    (quote "\"a\"\"").toList ++ [' ', '='] ≠ (quote "\"a").toList ++ [' ', '='] := by
  have closed : [' ', '='].head? ≠ some '"' := by decide
  refine ⟨closed, quote_prefix_code.1 _ _ closed, ?_⟩
  intro same
  exact absurd (quote_prefix_code.2.2.2 _ _ _ _ closed closed same).1 (by decide)

end FieldSearch.Sql
