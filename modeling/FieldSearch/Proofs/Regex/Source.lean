import FieldSearch.Proofs.Regex.Expression
import Mathlib.Data.List.Forall2

/-! # The text of a regular expression reads back

A token is written so that it is cut off again, whatever is written behind it. Every piece is a few
tokens that build one expression, so the text of a sequence of pieces reads back as the sequence of
their expressions. A letter cannot be taken for anything else, since the characters with a meaning of
their own are escaped. So no two sequences of pieces are written alike.
-/

namespace FieldSearch.Regex

/-- The items of the class of word characters. -/
def wordItems : List ClassItem :=
  [.category .letter, .category .mark, .category .number, .char '_']

/-- The items of the class of white space. -/
def blankItems : List ClassItem :=
  [.char '\t', .char '\n', .char '\x0B', .char '\x0C', .char '\r', .char '\x85',
    .category .separator]

/-- The expression that a piece stands for. -/
def Piece.expression : Piece → Expression
  | .wordStart => .either (.concat [.startOfText]) (.concat [.charClass true wordItems])
  | .letter c => .literal c
  | .wordChar => .charClass false wordItems
  | .wordRun => .star (.charClass false wordItems)
  | .gap => .plus (.charClass false blankItems)
  | .wordEnd => .either (.concat [.charClass true wordItems]) (.concat [.endOfText])

/-- The expression that a sequence of pieces stands for. -/
def expression (regex : Regex) : Expression :=
  .concat (regex.map Piece.expression)

private def Piece.tokens : Piece → List Token
  | .wordStart => [.opening, .atom .startOfText, .bar, .atom (.charClass true wordItems), .closing]
  | .letter c => [.atom (.literal c)]
  | .wordChar => [.atom (.charClass false wordItems)]
  | .wordRun => [.atom (.charClass false wordItems), .star]
  | .gap => [.atom (.charClass false blankItems), .plus]
  | .wordEnd => [.opening, .atom (.charClass true wordItems), .bar, .atom .endOfText, .closing]

private theorem tokens?_letter {c : Char} (plain : c ∉ metaCharacters) (rest : List Char) :
    tokens? none (c :: rest) = (tokens? none rest).map (.atom (.literal c) :: ·) := by
  rw [tokens?.eq_def]
  exact if_pos plain

private theorem tokens?_escape (c : Char) (rest : List Char) :
    tokens? none (escape c ++ rest) = (tokens? none rest).map (.atom (.literal c) :: ·) := by
  by_cases special : c ∈ metaCharacters
  · have backslash : '\\' ∈ metaCharacters := by decide
    simp only [escape, special, ↓reduceIte, List.cons_append, List.nil_append]
    rw [tokens?.eq_def]
    simp only [backslash, special, not_true_eq_false, ↓reduceIte]
  · simp only [escape, special, ↓reduceIte, List.cons_append, List.nil_append]
    exact tokens?_letter special rest

/-! ## Tokens -/

private def wordClassText : List Char :=
  ['\\', 'p', '\x7b', 'L', '\x7d', '\\', 'p', '\x7b', 'M', '\x7d',
    '\\', 'p', '\x7b', 'N', '\x7d', '_', ']']

private def blankClassText : List Char :=
  ['\\', 't', '\\', 'n', '\\', 'x', '0', 'B', '\\', 'f', '\\', 'r',
    '\\', 'x', '\x7b', '8', '5', '\x7d', '\\', 'p', '\x7b', 'Z', '\x7d', ']']

/-- How a token is written in the text of a piece. -/
private inductive Written : Token → List Char → Prop
  | opening : Written .opening ['(', '?', ':']
  | closing : Written .closing [')']
  | bar : Written .bar ['|']
  | star : Written .star ['*']
  | plus : Written .plus ['+']
  | startOfText : Written (.atom .startOfText) ['^']
  | endOfText : Written (.atom .endOfText) ['$']
  | literal {c : Char} : Written (.atom (.literal c)) (escape c)
  | wordChar : Written (.atom (.charClass false wordItems)) ('[' :: wordClassText)
  | boundary : Written (.atom (.charClass true wordItems)) ('[' :: '^' :: wordClassText)
  | blank : Written (.atom (.charClass false blankItems)) ('[' :: blankClassText)

private theorem Written.tokens? {token : Token} {text : List Char} (written : Written token text)
    (rest : List Char) : tokens? none (text ++ rest) = (tokens? none rest).map (token :: ·) := by
  cases written with
  | literal => exact tokens?_escape _ rest
  | _ => rfl

private theorem tokens?_flatten {tokens : List Token} {texts : List (List Char)}
    (written : List.Forall₂ Written tokens texts) (rest : List Char) :
    tokens? none (texts.flatten ++ rest) = (tokens? none rest).map (tokens ++ ·) := by
  induction written with
  | nil => simp
  | cons first _ ih =>
    rw [List.flatten_cons, List.append_assoc, first.tokens?, ih, Option.map_map]
    rfl

/-! ## Pieces -/

private theorem Piece.exists_texts (piece : Piece) :
    ∃ texts, piece.source = texts.flatten ∧ List.Forall₂ Written piece.tokens texts := by
  cases piece with
  | wordStart =>
    refine ⟨[['(', '?', ':'], ['^'], ['|'], '[' :: '^' :: wordClassText, [')']], rfl, ?_⟩
    exact .cons .opening (.cons .startOfText (.cons .bar (.cons .boundary (.cons .closing .nil))))
  | letter c => exact ⟨[escape c], (List.append_nil _).symm, .cons .literal .nil⟩
  | wordChar => exact ⟨['[' :: wordClassText], rfl, .cons .wordChar .nil⟩
  | wordRun => exact ⟨['[' :: wordClassText, ['*']], rfl, .cons .wordChar (.cons .star .nil)⟩
  | gap => exact ⟨['[' :: blankClassText, ['+']], rfl, .cons .blank (.cons .plus .nil)⟩
  | wordEnd =>
    refine ⟨[['(', '?', ':'], '[' :: '^' :: wordClassText, ['|'], ['$'], [')']], rfl, ?_⟩
    exact .cons .opening (.cons .boundary (.cons .bar (.cons .endOfText (.cons .closing .nil))))

private theorem tokens?_source (piece : Piece) (rest : List Char) :
    tokens? none (piece.source ++ rest) = (tokens? none rest).map (piece.tokens ++ ·) := by
  obtain ⟨texts, shape, written⟩ := piece.exists_texts
  rw [shape, tokens?_flatten written]

private theorem tokens?_flatMap_source (regex : Regex) :
    tokens? none (regex.flatMap Piece.source) = some (regex.flatMap Piece.tokens) := by
  induction regex with
  | nil => rfl
  | cons piece rest ih => rw [List.flatMap_cons, tokens?_source, ih]; rfl

private theorem build?_tokens (piece : Piece) (rest : List Token) (group : Group)
    (outer : List Group) :
    build? (piece.tokens ++ rest) group outer = build? rest (group.push piece.expression) outer := by
  cases piece <;> rfl

private theorem build?_flatMap_tokens (regex : Regex) (read : List Expression) :
    build? (regex.flatMap Piece.tokens) ⟨[], read⟩ [] =
      some (.concat (read.reverse ++ regex.map Piece.expression)) := by
  induction regex generalizing read with
  | nil => simp [build?, Group.close]
  | cons piece rest ih =>
    rw [List.flatMap_cons, build?_tokens]
    exact (ih _).trans (by simp)

/-- The text of a regular expression reads back as the sequence of its pieces, without regard to
case. -/
theorem read?_source (regex : Regex) : read? regex.source.toList = some ⟨true, regex.expression⟩ := by
  have text : regex.source.toList = '(' :: '?' :: 'i' :: ')' :: regex.flatMap Piece.source :=
    String.toList_ofList
  have body : expression? (regex.flatMap Piece.source) = some regex.expression := by
    rw [expression?, tokens?_flatMap_source]
    exact build?_flatMap_tokens regex []
  calc read? regex.source.toList
      = (expression? (regex.flatMap Piece.source)).map (Compiled.mk true) := by rw [text]; rfl
    _ = some ⟨true, regex.expression⟩ := by rw [body, Option.map_some]

/-! ## Texts of two regular expressions -/

private theorem concat_injective : Function.Injective Expression.concat := by
  intro expressions others same
  induction expressions generalizing others with
  | nil =>
    cases others with
    | nil => rfl
    | cons other others => cases same
  | cons expression expressions ih =>
    cases others with
    | nil => cases same
    | cons other others =>
      obtain ⟨first, rest⟩ := Expression.sequence.inj same
      rw [first, ih rest]

private theorem Piece.expression_injective : Function.Injective Piece.expression := by
  intro piece other same
  cases piece <;> cases other <;> cases same <;> rfl

/-- Regular expressions with the same text are made of the same pieces. -/
theorem source_injective : Function.Injective source := by
  intro regex other same
  have read : some (Compiled.mk true regex.expression) = some ⟨true, other.expression⟩ := by
    rw [← read?_source, ← read?_source, same]
  have expressions : regex.expression = other.expression := by
    simpa using read
  exact Piece.expression_injective.list_map (concat_injective expressions)

end FieldSearch.Regex
