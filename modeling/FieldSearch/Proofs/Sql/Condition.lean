import FieldSearch.Proofs.Sql.Identifier
import FieldSearch.Sql.Predicate
import Mathlib.Data.List.Forall2
import Mathlib.Logic.ExistsUnique
import Mathlib.Order.Lattice

/-! # Conditions of a query

The conditions that predicates are written in: tests of quoted columns with `AND` between them, each
a comparison with the next parameter or a test for any value at all. A text is cut into lexemes from
the front, every one as long as it can be, and is a condition if the lexemes of one come out. Running
a condition takes its parameters from left to right and asks one row. A comparison with a missing
value never holds. What the database stores for a value, and how that compares, is left open: any
linear order will do, be it one of the values themselves or of more than those.
-/

namespace FieldSearch.Sql

open Text

/-- The smallest parts of a condition. -/
inductive Lexeme where
  | identifier (name : List Char)
  | comparison (operator : Comparison)
  | placeholder
  | word (letters : List Char)
deriving DecidableEq

/-- The first lexeme of a text, behind any spaces. -/
def lexeme? : Reading Lexeme
  | [] => none
  | ' ' :: text => lexeme? text
  | '"' :: text => (unquote? text).map fun (name, rest) => (.identifier name, rest)
  | '?' :: text => some (.placeholder, text)
  | '=' :: text => some (.comparison .equal, text)
  | '<' :: '=' :: text => some (.comparison .atMost, text)
  | '<' :: text => some (.comparison .less, text)
  | '>' :: '=' :: text => some (.comparison .atLeast, text)
  | '>' :: text => some (.comparison .greater, text)
  | c :: text =>
    if c.isAlpha then
      some (.word (c :: text.takeWhile Char.isAlpha), text.dropWhile Char.isAlpha)
    else none

/-- The text is cut into these lexemes, one after the other. -/
inductive Lexed : List Char → List Lexeme → Prop
  | nil : Lexed [] []
  | cons {text rest : List Char} {lexeme : Lexeme} {lexemes : List Lexeme} :
      lexeme? text = some (lexeme, rest) → Lexed rest lexemes → Lexed text (lexeme :: lexemes)

/-- A test of one column. -/
inductive ColumnTest where
  /-- A comparison with the next parameter. -/
  | compares (column : String) (operator : Comparison)
  /-- The column has a value. -/
  | present (column : String)

/-- One test or several, all of which have to hold. -/
structure Condition where
  first : ColumnTest
  others : List ColumnTest

/-! ## Reading -/

/-- The test as it is written. -/
def ColumnTest.lexemes : ColumnTest → List Lexeme
  | .compares column operator => [.identifier column.toList, .comparison operator, .placeholder]
  | .present column => [.identifier column.toList, .word ['I', 'S'], .word ['N', 'O', 'T'],
      .word ['N', 'U', 'L', 'L']]

/-- The tests that follow the first one, as they are written. -/
def ColumnTest.conjuncts (tests : List ColumnTest) : List Lexeme :=
  tests.flatMap fun test => .word ['A', 'N', 'D'] :: test.lexemes

/-- The condition as it is written. -/
def Condition.lexemes (condition : Condition) : List Lexeme :=
  condition.first.lexemes ++ ColumnTest.conjuncts condition.others

/-- The text is written for the condition. -/
def Condition.Parsed (text : String) (condition : Condition) : Prop :=
  Lexed text.toList condition.lexemes

theorem Lexed.unique {text : List Char} {lexemes others : List Lexeme} (lexed : Lexed text lexemes)
    (again : Lexed text others) : lexemes = others := by
  induction lexed generalizing others with
  | nil =>
    cases again with
    | nil => rfl
    | cons first => cases first
  | cons first _ ih =>
    cases again with
    | nil => cases first
    | cons other rest =>
      obtain ⟨rfl, rfl⟩ := Prod.mk.inj (Option.some.inj (first.symm.trans other))
      rw [ih rest]

/-- A test is over before anything that follows it. -/
private theorem ColumnTest.lexemes_append_inj {test other : ColumnTest} {rest more : List Lexeme}
    (same : test.lexemes ++ rest = other.lexemes ++ more) : test = other ∧ rest = more := by
  cases test <;> cases other <;>
    simp_all [ColumnTest.lexemes, String.toList_inj]

private theorem ColumnTest.conjuncts_injective {tests others : List ColumnTest}
    (same : conjuncts tests = conjuncts others) : tests = others := by
  induction tests generalizing others with
  | nil =>
    cases others with
    | nil => rfl
    | cons other others => cases same
  | cons test tests ih =>
    cases others with
    | nil => cases same
    | cons other others =>
      obtain ⟨rfl, rest⟩ := lexemes_append_inj (List.cons.inj same).2
      rw [ih rest]

/-- A text is written for one condition at most. -/
theorem Condition.Parsed.unique {text : String} {condition other : Condition}
    (parsed : condition.Parsed text) (again : other.Parsed text) : condition = other := by
  obtain ⟨first, others⟩ := ColumnTest.lexemes_append_inj (Lexed.unique parsed again)
  cases condition
  cases other
  exact congr (congrArg Condition.mk first) (ColumnTest.conjuncts_injective others)

/-! ## Running -/

section Running

variable {Stored : Type} [LinearOrder Stored]

/-- Whether the operator holds between a value and its operand. -/
def Comparison.holds (operator : Comparison) (value operand : Stored) : Bool :=
  match operator with
  | .equal => decide (value = operand)
  | .less => decide (value < operand)
  | .atMost => decide (value ≤ operand)
  | .greater => decide (operand < value)
  | .atLeast => decide (operand ≤ value)

/-- Ask one row, and take the parameter of a comparison. There is no answer without one. -/
def ColumnTest.run? (row : String → Option Stored) :
    ColumnTest → List Stored → Option (Bool × List Stored)
  | .compares column operator, operand :: parameters =>
    some ((row column).any (operator.holds · operand), parameters)
  | .compares _ _, [] => none
  | .present column, parameters => some ((row column).isSome, parameters)

/-- Run tests from left to right, each with the parameters that are left of those before. -/
def ColumnTest.runAll? (row : String → Option Stored) :
    List ColumnTest → List Stored → Option (Bool × List Stored)
  | [], parameters => some (true, parameters)
  | test :: tests, parameters => do
    let (answer, parameters) ← test.run? row parameters
    let (answers, parameters) ← runAll? row tests parameters
    return (answer && answers, parameters)

/-- Whether the condition selects the row, and the parameters that it leaves over. -/
def Condition.run? (row : String → Option Stored) (condition : Condition) (parameters : List Stored) :
    Option (Bool × List Stored) :=
  ColumnTest.runAll? row (condition.first :: condition.others) parameters

end Running

/-- The predicate is written for one condition only, which takes up all of its parameters and selects
the row exactly as told. -/
def Predicate.Selects {Stored : Type} [LinearOrder Stored] (stored : Value → Stored)
    (predicate : Predicate) (row : String → Option Stored) (selected : Prop) : Prop :=
  (∃! condition : Condition, condition.Parsed predicate.text) ∧
  ∀ condition : Condition, condition.Parsed predicate.text →
    ∃ answer, condition.run? row (predicate.parameters.map stored) = some (answer, []) ∧
      (answer = true ↔ selected)

/-! ## The tests of a predicate -/

/-- The test of a predicate is written as this test of the column. -/
inductive Test.WrittenAs (column : String) : Test → ColumnTest → Prop
  | compares {operator : Comparison} {operand : Value} :
      WrittenAs column (.compares operator operand) (.compares column operator)
  | present : WrittenAs column .present (.present column)

/-- What a value in a column has to satisfy for a test. -/
def Test.Passes {Stored : Type} [LinearOrder Stored] (stored : Value → Stored)
    (value : Option Stored) : Test → Prop
  | .compares operator operand => ∃ x, value = some x ∧ operator.holds x (stored operand) = true
  | .present => value ≠ none
  | .matchesRegex _ => False

private theorem Lexed.space {text : List Char} {lexeme : Lexeme} {lexemes : List Lexeme}
    (lexed : Lexed text (lexeme :: lexemes)) : Lexed (' ' :: text) (lexeme :: lexemes) := by
  cases lexed with
  | cons first rest => exact .cons first rest

private theorem Lexed.identifier {rest : List Char} {lexemes : List Lexeme} (column : String)
    (lexed : Lexed (' ' :: rest) lexemes) :
    Lexed ((quote column).toList ++ ' ' :: rest) (.identifier column.toList :: lexemes) := by
  refine .cons ?_ lexed
  have unquoted : unquote? (doubleQuotes column.toList ++ '"' :: ' ' :: rest) = _ :=
    unquote?_doubleQuotes _ (by simp)
  rw [toList_quote, List.cons_append, List.append_assoc, List.singleton_append, lexeme?, unquoted]
  rfl

private theorem lexeme?_symbol (operator : Comparison) (rest : List Char) :
    lexeme? (operator.symbol.toList ++ ' ' :: rest) = some (.comparison operator, ' ' :: rest) := by
  cases operator <;> rfl

/-- A test is cut into its lexemes at the end of the text and in front of a space. -/
private theorem Test.WrittenAs.lexed {column : String} {test : Test} {columnTest : ColumnTest}
    {rest : List Char} {lexemes : List Lexeme} (written : test.WrittenAs column columnTest)
    (stops : rest.takeWhile Char.isAlpha = []) (lexed : Lexed rest lexemes) :
    Lexed ((test.render column).toList ++ rest) (columnTest.lexemes ++ lexemes) := by
  cases written with
  | @compares operator operand =>
    have shape : ((Test.compares operator operand).render column).toList ++ rest =
        (quote column).toList ++ ' ' :: (operator.symbol.toList ++ ' ' :: '?' :: rest) := by
      change (quote column ++ " " ++ operator.symbol ++ " ?").toList ++ rest = _
      simp
    rw [shape]
    exact .identifier column (.space (.cons (lexeme?_symbol operator _) (.cons rfl lexed)))
  | present =>
    have shape : (Test.present.render column).toList ++ rest = (quote column).toList ++
        ' ' :: 'I' :: 'S' :: ' ' :: 'N' :: 'O' :: 'T' :: ' ' :: 'N' :: 'U' :: 'L' :: 'L' :: rest := by
      change (quote column ++ " IS NOT NULL").toList ++ rest = _
      simp
    have kept : rest.dropWhile Char.isAlpha = rest := by
      have split := List.takeWhile_append_dropWhile (l := rest) (p := Char.isAlpha)
      rwa [stops] at split
    have last : lexeme? (' ' :: 'N' :: 'U' :: 'L' :: 'L' :: rest) =
        some (.word ['N', 'U', 'L', 'L'], rest) := by
      change some (Lexeme.word ('N' :: 'U' :: 'L' :: 'L' :: rest.takeWhile Char.isAlpha),
        rest.dropWhile Char.isAlpha) = _
      rw [stops, kept]
    rw [shape]
    exact .identifier column (.cons rfl (.cons rfl (.cons last lexed)))

private theorem ColumnTest.lexemes_eq_cons (test : ColumnTest) (rest : List Lexeme) :
    ∃ lexeme lexemes, test.lexemes ++ rest = lexeme :: lexemes := by
  cases test <;> exact ⟨_, _, rfl⟩

private theorem lexed_tests {column : String} {tests : List Test} {columnTests : List ColumnTest}
    {test : Test} {columnTest : ColumnTest} (first : test.WrittenAs column columnTest)
    (others : List.Forall₂ (Test.WrittenAs column) tests columnTests) :
    Lexed (" AND ".toList.intercalate ((test :: tests).map fun test => (test.render column).toList))
      (Condition.mk columnTest columnTests).lexemes := by
  induction others generalizing test columnTest with
  | nil =>
    have last := first.lexed rfl .nil
    simpa [Condition.lexemes, ColumnTest.conjuncts] using last
  | @cons next nextTest tests columnTests second _ ih =>
    have later := ih second
    obtain ⟨lexeme, lexemes, shape⟩ :=
      nextTest.lexemes_eq_cons (ColumnTest.conjuncts columnTests)
    rw [Condition.lexemes, shape] at later
    have conjunction (text : List Char) :
        lexeme? (' ' :: 'A' :: 'N' :: 'D' :: ' ' :: text) = some (.word ['A', 'N', 'D'], ' ' :: text) :=
      rfl
    have separator : " AND ".toList = [' ', 'A', 'N', 'D', ' '] := by decide
    have onward := first.lexed rfl (.cons (conjunction _) later.space)
    rw [separator, ← shape] at onward
    rw [List.map_cons, List.map_cons, List.intercalate_cons_cons, separator, List.append_assoc]
    exact onward

/-- The text of tests is one condition, the conjunction of the same tests. -/
theorem parsed_ofTests {column : String} {test : Test} {tests : List Test} {columnTest : ColumnTest}
    {columnTests : List ColumnTest} (first : test.WrittenAs column columnTest)
    (others : List.Forall₂ (Test.WrittenAs column) tests columnTests) :
    (Condition.mk columnTest columnTests).Parsed (Predicate.ofTests column (test :: tests)).text := by
  have text : (Predicate.ofTests column (test :: tests)).text.toList =
      " AND ".toList.intercalate ((test :: tests).map fun test => (test.render column).toList) := by
    rw [Predicate.ofTests, String.toList_intercalate, List.map_map]
    rfl
  rw [Condition.Parsed, text]
  exact lexed_tests first others

/-! ## The parameters of a predicate -/

section Parameters

variable {Stored : Type} [LinearOrder Stored] {column : String}

/-- A missing value passes no test that a condition can be written with. -/
theorem Test.WrittenAs.not_passes_none {test : Test} {columnTest : ColumnTest}
    (written : test.WrittenAs column columnTest) (stored : Value → Stored) :
    ¬ test.Passes stored none := by
  cases written <;> simp [Test.Passes]

private theorem Test.WrittenAs.run {test : Test} {columnTest : ColumnTest}
    (written : test.WrittenAs column columnTest) (stored : Value → Stored)
    (row : String → Option Stored) (parameters : List Stored) :
    ∃ answer, columnTest.run? row ((test.parameter?.map stored).toList ++ parameters) =
        some (answer, parameters) ∧
      (answer = true ↔ test.Passes stored (row column)) := by
  cases written with
  | compares =>
    refine ⟨_, rfl, ?_⟩
    cases row column <;> simp [Test.Passes]
  | present =>
    refine ⟨_, rfl, ?_⟩
    cases row column <;> simp [Test.Passes]

/-- Tests take up their own parameters and leave none. -/
private theorem runAll?_tests {tests : List Test} {columnTests : List ColumnTest}
    (written : List.Forall₂ (Test.WrittenAs column) tests columnTests) (stored : Value → Stored)
    (row : String → Option Stored) :
    ∃ answer, ColumnTest.runAll? row columnTests ((tests.filterMap Test.parameter?).map stored) =
        some (answer, []) ∧
      (answer = true ↔ ∀ test ∈ tests, test.Passes stored (row column)) := by
  induction written with
  | nil => exact ⟨true, rfl, by simp⟩
  | @cons test columnTest tests columnTests first _ ih =>
    obtain ⟨answers, ran, passed⟩ := ih
    obtain ⟨answer, firstRan, firstPassed⟩ :=
      first.run stored row ((tests.filterMap Test.parameter?).map stored)
    have parameters : ((test :: tests).filterMap Test.parameter?).map stored =
        (test.parameter?.map stored).toList ++ (tests.filterMap Test.parameter?).map stored := by
      cases shape : test.parameter? <;> simp [shape]
    refine ⟨answer && answers, ?_, ?_⟩
    · rw [ColumnTest.runAll?, parameters, firstRan]
      simp [ran]
    · simp [firstPassed, passed]

/-- A predicate of comparisons and tests for any value selects the rows that pass all of its tests. -/
theorem selects_ofTests {test : Test} {tests : List Test} {columnTests : List ColumnTest}
    (written : List.Forall₂ (Test.WrittenAs column) (test :: tests) columnTests)
    (stored : Value → Stored) (row : String → Option Stored) :
    (Predicate.ofTests column (test :: tests)).Selects stored row
      (∀ other ∈ test :: tests, other.Passes stored (row column)) := by
  obtain ⟨answer, ran, passed⟩ := runAll?_tests written stored row
  cases written with
  | cons first others =>
    have parsed := parsed_ofTests first others
    refine ⟨⟨_, parsed, fun other again => again.unique parsed⟩, ?_⟩
    intro other again
    rw [again.unique parsed]
    exact ⟨answer, ran, passed⟩

end Parameters

end FieldSearch.Sql
