import FieldSearch.Proofs.Regex.Source
import FieldSearch.Proofs.Text.CaseFold
import FieldSearch.Regex.Search
import Mathlib.Data.List.Forall2
import Mathlib.Data.List.Infix

/-! # The search finds what the expression means

`Piece.Leads` says for each piece to which places it leads, and agrees with the meaning of the
expression that the piece's text reads back as, under any assignment of the general categories. The
rows of the search answer for each place of the text whether the pieces so far lead anywhere from
there, so the search succeeds exactly where the expression occurs.
-/

namespace FieldSearch.Regex

open Text

/-- One character of a class leads past it. -/
def Step (inClass : Char → Bool) (place next : List Char) : Prop :=
  ∃ c, place = c :: next ∧ inClass c = true

/-- The places to which a piece leads in a text. -/
def Piece.Leads (text : List Char) : Piece → List Char → List Char → Prop
  | .wordStart => fun place next => (place = text ∧ next = place) ∨ Step isBoundary place next
  | .letter c => Step (sameLetter c)
  | .wordChar => Step isWordChar
  | .wordRun => Relation.ReflTransGen (Step isWordChar)
  | .gap => Relation.TransGen (Step isBlank)
  | .wordEnd => fun place next => Step isBoundary place next ∨ (place = [] ∧ next = place)

/-- The places to which the pieces lead, one behind the other. -/
def Leads (text : List Char) : Regex → List Char → List Char → Prop
  | [] => fun place next => next = place
  | piece :: rest => Relation.Comp (piece.Leads text) (Leads text rest)

section Step

variable {inClass : Char → Bool} {c : Char} {text next : List Char}

@[simp]
private theorem step_cons_iff : Step inClass (c :: text) next ↔ inClass c = true ∧ next = text := by
  constructor
  · rintro ⟨d, shape, inside⟩
    obtain ⟨rfl, rfl⟩ := List.cons_eq_cons.mp shape
    exact ⟨inside, rfl⟩
  · rintro ⟨inside, rfl⟩
    exact ⟨c, rfl, inside⟩

@[simp]
private theorem not_step_nil : ¬ Step inClass [] next := by
  rintro ⟨d, shape, _⟩
  cases shape

private theorem run_nil_iff : Relation.ReflTransGen (Step inClass) [] next ↔ next = [] := by
  rw [Relation.ReflTransGen.cases_head_iff]
  simp only [not_step_nil, false_and, exists_false, or_false]
  exact eq_comm

private theorem run_cons_iff : Relation.ReflTransGen (Step inClass) (c :: text) next ↔
    next = c :: text ∨ inClass c = true ∧ Relation.ReflTransGen (Step inClass) text next := by
  rw [Relation.ReflTransGen.cases_head_iff]
  simp only [step_cons_iff, and_assoc, exists_and_left, exists_eq_left]
  exact or_congr_left eq_comm

/-- Steps through a class lead past any run of its characters. -/
theorem run_iff {place : List Char} : Relation.ReflTransGen (Step inClass) place next ↔
    ∃ taken, place = taken ++ next ∧ ∀ c ∈ taken, inClass c = true := by
  induction place with
  | nil =>
    rw [run_nil_iff]
    constructor
    · rintro rfl
      exact ⟨[], rfl, by simp⟩
    · rintro ⟨taken, shape, _⟩
      exact (List.append_eq_nil_iff.mp shape.symm).2
  | cons c text ih =>
    rw [run_cons_iff, ih]
    constructor
    · rintro (rfl | ⟨inside, taken, rfl, all⟩)
      · exact ⟨[], rfl, by simp⟩
      · exact ⟨c :: taken, rfl, List.forall_mem_cons.mpr ⟨inside, all⟩⟩
    · rintro ⟨taken, shape, all⟩
      cases taken with
      | nil => exact .inl shape.symm
      | cons d taken =>
        obtain ⟨rfl, rfl⟩ := List.cons_eq_cons.mp shape
        obtain ⟨inside, all⟩ := List.forall_mem_cons.mp all
        exact .inr ⟨inside, taken, rfl, all⟩

/-- One step and any more lead past a run that is not empty. -/
theorem nonemptyRun_iff {place : List Char} : Relation.TransGen (Step inClass) place next ↔
    ∃ taken, taken ≠ [] ∧ place = taken ++ next ∧ ∀ c ∈ taken, inClass c = true := by
  simp only [Relation.TransGen.head'_iff, run_iff]
  constructor
  · rintro ⟨_, ⟨c, rfl, inside⟩, taken, rfl, all⟩
    exact ⟨c :: taken, List.cons_ne_nil _ _, rfl, List.forall_mem_cons.mpr ⟨inside, all⟩⟩
  · rintro ⟨taken, nonempty, rfl, all⟩
    obtain ⟨c, taken, rfl⟩ := List.exists_cons_of_ne_nil nonempty
    obtain ⟨inside, all⟩ := List.forall_mem_cons.mp all
    exact ⟨taken ++ next, ⟨c, rfl, inside⟩, taken, rfl, all⟩

end Step

/-! ## The meaning of the text -/

section Meaning

variable (table : CategoryTable) (text : List Char)

private theorem leads_concat_singleton (same : Char → Char → Prop) (expression : Expression) :
    (Expression.concat [expression]).Leads table same text = expression.Leads table same text := by
  have compEq : Relation.Comp (expression.Leads table same text) (fun place next => next = place) =
      expression.Leads table same text := by
    ext place next
    constructor
    · rintro ⟨middle, lead, rfl⟩
      exact lead
    · intro lead
      exact ⟨next, lead, rfl⟩
  exact compEq

/-- Ignoring case adds nothing to a class that does not tell the cases of a letter apart. -/
private theorem leads_charClass {items : List ClassItem} {inClass : Char → Bool}
    (listed : ∀ c, inClass c = true ↔ ∃ item ∈ items, item.Holds table c)
    (closed : ∀ {c d}, sameLetter c d = true → inClass c = inClass d) (negated : Bool) :
    (Expression.charClass negated items).Leads table (fun c d => sameLetter c d = true) text =
      Step fun c => inClass c != negated := by
  have folded (d : Char) :
      (∃ item ∈ items, ∃ c, item.Holds table c ∧ sameLetter c d = true) ↔ inClass d = true := by
    constructor
    · rintro ⟨item, member, c, holds, same⟩
      exact closed same ▸ (listed c).mpr ⟨item, member, holds⟩
    · intro inside
      obtain ⟨item, member, holds⟩ := (listed d).mp inside
      exact ⟨item, member, d, holds, sameLetter_refl d⟩
  ext place next
  simp only [Expression.Leads, folded, Step]
  cases negated <;> simp

private theorem isWordChar_listed (c : Char) :
    isWordChar c = true ↔ ∃ item ∈ wordItems, item.Holds table c := by
  simp [table.isWordChar_iff, wordItems, ClassItem.Holds, eq_comm]

private theorem isBlank_listed (c : Char) :
    isBlank c = true ↔ ∃ item ∈ blankItems, item.Holds table c := by
  simp [table.isBlank_iff, blankItems, ClassItem.Holds, eq_comm, or_assoc]

private theorem leads_wordClass :
    (Expression.charClass false wordItems).Leads table (fun c d => sameLetter c d = true) text =
      Step isWordChar := by
  simpa using leads_charClass table text (isWordChar_listed table) isWordChar_eq_of_sameLetter false

private theorem leads_boundaryClass :
    (Expression.charClass true wordItems).Leads table (fun c d => sameLetter c d = true) text =
      Step isBoundary := by
  have negated : (fun c => isWordChar c != true) = isBoundary := by
    funext c
    exact Bool.bne_true _
  rw [leads_charClass table text (isWordChar_listed table) isWordChar_eq_of_sameLetter, negated]

private theorem leads_blankClass :
    (Expression.charClass false blankItems).Leads table (fun c d => sameLetter c d = true) text =
      Step isBlank := by
  simpa using leads_charClass table text (isBlank_listed table) isBlank_eq_of_sameLetter false

/-- A piece leads where the expression of its text leads. -/
theorem Piece.leads_expression (piece : Piece) :
    piece.expression.Leads table (fun c d => sameLetter c d = true) text = piece.Leads text := by
  cases piece with
  | wordStart =>
    ext place next
    change (Expression.Leads _ _ _ (.concat [.startOfText]) place next ∨
      Expression.Leads _ _ _ (.concat [.charClass true wordItems]) place next) ↔ _
    rw [leads_concat_singleton, leads_concat_singleton, leads_boundaryClass]
    rfl
  | letter c => rfl
  | wordChar => exact leads_wordClass table text
  | wordRun => exact congrArg Relation.ReflTransGen (leads_wordClass table text)
  | gap => exact congrArg Relation.TransGen (leads_blankClass table text)
  | wordEnd =>
    ext place next
    change (Expression.Leads _ _ _ (.concat [.charClass true wordItems]) place next ∨
      Expression.Leads _ _ _ (.concat [.endOfText]) place next) ↔ _
    rw [leads_concat_singleton, leads_concat_singleton, leads_boundaryClass]
    rfl

/-- A sequence of pieces leads where the expression of its text leads. -/
theorem leads_expression (regex : Regex) :
    regex.expression.Leads table (fun c d => sameLetter c d = true) text = regex.Leads text := by
  induction regex with
  | nil => rfl
  | cons piece rest ih =>
    change Relation.Comp (piece.expression.Leads table _ text) (Expression.Leads table _ text _) = _
    rw [Piece.leads_expression]
    exact congrArg (Relation.Comp (piece.Leads text)) ih

end Meaning

/-! ## The rows of the search -/

/-- The row answers, for each place of the text, whether the place has the property. -/
def Row.Answers (row : Row) (text : List Char) (holds : List Char → Prop) : Prop :=
  List.Forall₂ (fun answer place => answer = true ↔ holds place) row text.tails

namespace Row

variable {text : List Char} {row : Row} {holds : List Char → Prop} {inClass : Char → Bool}

private theorem answers_cons_iff {answer : Bool} {c : Char} :
    Answers (answer :: row) (c :: text) holds ↔
      (answer = true ↔ holds (c :: text)) ∧ row.Answers text holds := by
  simp [Answers]

/-- What the row answers may be said in another way, as far as the places of the text go. -/
private theorem Answers.congr {other : List Char → Prop} (answers : row.Answers text holds)
    (same : ∀ place, place <:+ text → (holds place ↔ other place)) : row.Answers text other := by
  apply List.forall₂_iff_zip.mpr
  refine ⟨List.Forall₂.length_eq answers, ?_⟩
  intro answer place member
  have suffix := (List.mem_tails _ _).mp (List.of_mem_zip member).2
  exact ((List.forall₂_iff_zip.mp answers).2 member).trans (same place suffix)

private theorem Answers.ne_nil (answers : row.Answers text holds) : row ≠ [] := by
  rintro rfl
  cases text <;> cases answers

/-- The first answer is the one for the start of the text. -/
private theorem Answers.headD (answers : row.Answers text holds) (default : Bool) :
    row.headD default = true ↔ holds text := by
  cases text <;> cases answers <;> assumption

private theorem Answers.getLastD (answers : row.Answers text holds) (default : Bool) :
    row.getLastD default = true ↔ holds [] := by
  induction text generalizing row default with
  | nil =>
    rcases answers with _ | ⟨answer, rest⟩
    cases rest
    exact answer
  | cons c text ih =>
    rcases answers with _ | ⟨_, rest⟩
    rw [List.getLastD_cons]
    exact ih rest _

private theorem answers_replicate (text : List Char) :
    Answers (List.replicate (text.length + 1) true) text fun _ => True := by
  induction text with
  | nil => simp [Answers]
  | cons c text ih =>
    rw [List.length_cons, List.replicate_succ]
    exact answers_cons_iff.mpr ⟨by simp, ih⟩

/-- Some place of the text has the property exactly if some answer is yes. -/
theorem Answers.any_iff (answers : row.Answers text holds) :
    row.any id = true ↔ ∃ before place, text = before ++ place ∧ holds place := by
  have anywhere : row.any id = true ↔ ∃ place ∈ text.tails, holds place := by
    unfold Answers at answers
    generalize text.tails = places at answers ⊢
    induction answers with
    | nil => simp
    | cons answer _ ih => simp [answer, ih]
  simp only [anywhere, List.mem_tails, List.IsSuffix, eq_comm]
  constructor
  · rintro ⟨place, ⟨before, shape⟩, here⟩
    exact ⟨before, place, shape, here⟩
  · rintro ⟨before, place, shape, here⟩
    exact ⟨place, ⟨before, shape⟩, here⟩

/-- Consuming a character moves every answer one place towards the start. -/
theorem Answers.consume (answers : row.Answers text holds) :
    Answers (consume inClass text row) text fun place =>
      ∃ next, Step inClass place next ∧ holds next := by
  induction text generalizing row with
  | nil =>
    rcases answers with _ | ⟨_, rest⟩
    cases rest
    simp [Answers, Regex.consume]
  | cons c text ih =>
    rcases answers with _ | ⟨_, rest⟩
    refine answers_cons_iff.mpr ⟨?_, ih rest⟩
    rw [Bool.and_eq_true, Answers.headD rest]
    simp

/-- Consuming a run of characters carries an answer from its end to every place in front. -/
theorem Answers.consumeMany (answers : row.Answers text holds) :
    Answers (consumeMany inClass text row) text fun place =>
      ∃ next, Relation.ReflTransGen (Step inClass) place next ∧ holds next := by
  induction text generalizing row with
  | nil =>
    rcases answers with _ | ⟨here, rest⟩
    cases rest
    exact .cons (by simp [here, run_nil_iff]) .nil
  | cons c text ih =>
    rcases answers with _ | ⟨here, rest⟩
    have later := ih rest
    refine answers_cons_iff.mpr ⟨?_, later⟩
    rw [Bool.or_eq_true, Bool.and_eq_true, Answers.headD later, here]
    simp only [run_cons_iff]
    constructor
    · rintro (here | ⟨inside, next, run, there⟩)
      · exact ⟨_, .inl rfl, here⟩
      · exact ⟨next, .inr ⟨inside, run⟩, there⟩
    · rintro ⟨next, rfl | ⟨inside, run⟩, there⟩
      · exact .inl there
      · exact .inr ⟨inside, next, run, there⟩

/-- Only the first place is the whole text. -/
private theorem Answers.atStart (answers : row.Answers text holds) {answer : Bool} {starts : Prop}
    (started : answer = true ↔ starts) :
    Answers (atStart answer row) text fun place => (place = text ∧ starts) ∨ holds place := by
  cases text with
  | nil =>
    rcases answers with _ | ⟨here, rest⟩
    cases rest
    exact .cons (by simp [here, started, or_comm]) .nil
  | cons c text =>
    rcases answers with _ | ⟨here, rest⟩
    refine answers_cons_iff.mpr ⟨by simp [here, started, or_comm], ?_⟩
    apply Answers.congr rest
    intro place suffix
    have shorter : place ≠ c :: text := by
      rintro rfl
      have length := suffix.length_le
      simp only [List.length_cons] at length
      omega
    simp [shorter]

/-- Only the last place is empty. -/
private theorem Answers.atEnd (answers : row.Answers text holds) {answer : Bool} {ends : Prop}
    (ended : answer = true ↔ ends) :
    Answers (atEnd answer row) text fun place => holds place ∨ (place = [] ∧ ends) := by
  induction text generalizing row with
  | nil =>
    rcases answers with _ | ⟨here, rest⟩
    cases rest
    exact .cons (by simp [here, ended]) .nil
  | cons c text ih =>
    rcases answers with _ | ⟨here, rest⟩
    rw [Regex.atEnd]
    · exact answers_cons_iff.mpr ⟨by simp [here], ih rest⟩
    · exact Answers.ne_nil rest

/-- From the row of what is behind a piece, the search makes the row of the piece. -/
theorem Answers.piece (answers : row.Answers text holds) (piece : Piece) :
    Answers (piece.row text row) text fun place => ∃ next, piece.Leads text place next ∧ holds next := by
  cases piece with
  | wordStart =>
    apply (answers.consume.atStart (answers.headD false)).congr
    intro place _
    constructor
    · rintro (⟨rfl, here⟩ | ⟨next, step, there⟩)
      · exact ⟨_, .inl ⟨rfl, rfl⟩, here⟩
      · exact ⟨next, .inr step, there⟩
    · rintro ⟨next, ⟨rfl, rfl⟩ | step, there⟩
      · exact .inl ⟨rfl, there⟩
      · exact .inr ⟨next, step, there⟩
  | letter c => exact answers.consume
  | wordChar => exact answers.consume
  | wordRun => exact answers.consumeMany
  | gap =>
    apply answers.consumeMany.consume.congr
    intro place _
    simp only [Piece.Leads, Relation.TransGen.head'_iff]
    constructor
    · rintro ⟨middle, step, next, run, there⟩
      exact ⟨next, ⟨middle, step, run⟩, there⟩
    · rintro ⟨next, ⟨middle, step, run⟩, there⟩
      exact ⟨middle, step, next, run, there⟩
  | wordEnd =>
    apply (answers.consume.atEnd (answers.getLastD false)).congr
    intro place _
    constructor
    · rintro (⟨next, step, there⟩ | ⟨rfl, here⟩)
      · exact ⟨next, .inl step, there⟩
      · exact ⟨_, .inr ⟨rfl, rfl⟩, here⟩
    · rintro ⟨next, step | ⟨rfl, rfl⟩, there⟩
      · exact .inl ⟨next, step, there⟩
      · exact .inr ⟨rfl, there⟩

/-- The row of the search answers from which places the pieces lead anywhere. -/
theorem answers_row (text : List Char) (regex : Regex) :
    (Regex.row text regex).Answers text fun place => ∃ next, regex.Leads text place next := by
  induction regex with
  | nil =>
    apply (answers_replicate text).congr
    intro place _
    simp [Leads]
  | cons piece rest ih =>
    apply (ih.piece piece).congr
    intro place _
    constructor
    · rintro ⟨middle, lead, next, onward⟩
      exact ⟨next, middle, lead, onward⟩
    · rintro ⟨next, middle, lead, onward⟩
      exact ⟨middle, lead, next, onward⟩

end Row

/-- The search succeeds exactly if the pieces lead anywhere from some place. -/
theorem occursIn_iff (regex : Regex) (text : List Char) : regex.occursIn text = true ↔
    ∃ before place next, text = before ++ place ∧ regex.Leads text place next := by
  simp only [exists_and_left]
  exact (Row.answers_row text regex).any_iff

/-- The search succeeds exactly if the expression of the text occurs, ignoring case. -/
theorem occursIn_iff_expression (table : CategoryTable) (regex : Regex) (text : List Char) :
    regex.occursIn text = true ↔ Compiled.OccursIn table ⟨true, regex.expression⟩ text := by
  rw [occursIn_iff, ← leads_expression table text regex]
  rfl

end FieldSearch.Regex
