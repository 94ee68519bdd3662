import FieldSearch.Proofs.WordPattern.Reading
import FieldSearch.Query

/-! # The two sides of a range

Each side of a range has a text or none, and a flag that tells whether the value of the text lies in
the range. What comes of the range is decided by what comes of the texts on their own: the range
between their values, or the fault of the first of them that has one. A text on a side is read as the
term of its datatype is. Only analysed text is taken on a side as it stands, so that more texts will do
there than as a term: those that are refused for their quotes alone.
-/

namespace FieldSearch

open Text

/-- No text, or the open mark for a text, leaves the end of a range open. -/
def LeftOpen (openMark : String) (text : Option String) : Prop :=
  text = none ∨ text = some openMark

/-- What comes of one side of a range, by what comes of its text. An end that is left open has no value
to include or exclude. -/
inductive SideOutcome (reads : String → Except Fault Literal → Prop) (openMark : String) :
    Option String → Bool → Except Fault (Endpoint Literal) → Prop
  | leftOpen {text : Option String} {inclusive : Bool} : LeftOpen openMark text →
      SideOutcome reads openMark text inclusive (.ok .unbounded)
  | included {text : String} {value : Literal} : text ≠ openMark → reads text (.ok value) →
      SideOutcome reads openMark (some text) true (.ok (.included value))
  | excluded {text : String} {value : Literal} : text ≠ openMark → reads text (.ok value) →
      SideOutcome reads openMark (some text) false (.ok (.excluded value))
  | refused {text : String} {inclusive : Bool} {fault : Fault} : text ≠ openMark →
      reads text (.error fault) → SideOutcome reads openMark (some text) inclusive (.error fault)

/-- What comes of a range, by what comes of its sides. The fault of the lower side goes first. -/
inductive RangeOutcome (column : String) (lower upper : Except Fault (Endpoint Literal) → Prop) :
    Except Fault Query → Prop
  | range {low high : Endpoint Literal} : lower (.ok low) → upper (.ok high) →
      RangeOutcome column lower upper (.ok (.range column low high))
  | lowerRefused {fault : Fault} : lower (.error fault) →
      RangeOutcome column lower upper (.error fault)
  | upperRefused {low : Endpoint Literal} {fault : Fault} : lower (.ok low) → upper (.error fault) →
      RangeOutcome column lower upper (.error fault)

/-- What comes of a text as a term of the datatype: the value that its query asks for, or the fault. -/
inductive TermOutcome (type : Datatype) (column text : String) : Except Fault Literal → Prop
  | value {value : Literal} : type.readTerm column text = .ok (.exact column value) →
      TermOutcome type column text (.ok value)
  | refused {fault : Fault} : type.readTerm column text = .error fault →
      TermOutcome type column text (.error fault)

/-- What comes of a text that is taken as it stands, unless it is white space only. -/
inductive VerbatimOutcome (text : String) : Except Fault Literal → Prop
  | value : trim text.toList ≠ [] → VerbatimOutcome text (.ok (.text text))
  | empty : trim text.toList = [] →
      VerbatimOutcome text (.error (.invalidLiteral .text text .emptyText))

/-- The end of a range between texts, as a side of a range. -/
inductive Endpoint.IsSide : Endpoint String → Option String → Bool → Prop
  | included (text : String) : IsSide (.included text) (some text) true
  | excluded (text : String) : IsSide (.excluded text) (some text) false
  | unbounded (inclusive : Bool) : IsSide .unbounded none inclusive

namespace Datatype

variable {type : Datatype} {settings : Settings} {column text : String}

/-! ## Texts -/

/-- A term of any datatype but analysed text asks for the literal of its text. -/
theorem readTerm_eq (notText : type ≠ .text) :
    type.readTerm column text = (Literal.read type text).map (.exact column) := by
  cases type with
  | text => exact absurd rfl notText
  | string | int | long | float | double | date => rfl

theorem termOutcome_iff (notText : type ≠ .text) {result : Except Fault Literal} :
    TermOutcome type column text result ↔ Literal.read type text = result := by
  have term : type.readTerm column text = _ := readTerm_eq notText
  cases read : Literal.read type text with
  | ok value =>
    rw [read] at term
    constructor
    · rintro (made | refused)
      · cases term.symm.trans made
        rfl
      · cases term.symm.trans refused
    · rintro rfl
      exact .value term
  | error fault =>
    rw [read] at term
    constructor
    · rintro (made | refused)
      · cases term.symm.trans made
      · cases term.symm.trans refused
        rfl
    · rintro rfl
      exact .refused term

theorem verbatimOutcome_iff {result : Except Fault Literal} :
    VerbatimOutcome text result ↔ Literal.read .text text = result := by
  by_cases empty : trim text.toList = []
  · have read : Literal.read .text text = .error (.invalidLiteral .text text .emptyText) := by
      rw [Literal.read, Literal.ofText, if_pos empty]
    rw [read]
    constructor
    · rintro (nonempty | _)
      · exact absurd empty nonempty
      · rfl
    · rintro rfl
      exact .empty empty
  · have read : Literal.read .text text = .ok (.text text) := by
      rw [Literal.read, Literal.ofText, if_neg empty]
    rw [read]
    constructor
    · rintro (_ | blank)
      · rfl
      · exact absurd blank empty
    · rintro rfl
      exact .value empty

/-- A term of analysed text is refused for one of the faults of a word pattern. -/
theorem readTerm_text_eq_error_iff {fault : Fault} :
    Datatype.text.readTerm column text = .error fault ↔ ∃ reason,
      WordPattern.Refused (trim text.toList) reason ∧ fault = .invalidLiteral .text text reason := by
  rw [← WordPattern.read_eq_error_iff]
  cases read : WordPattern.read text with
  | ok pattern =>
    have made : Datatype.text.readTerm column text = .ok (.words column pattern) := by
      rw [readTerm, read]
      rfl
    simp [made]
  | error reason =>
    have refused : Datatype.text.readTerm column text = .error reason := by
      rw [readTerm, read]
      rfl
    simp [refused]

/-- What will do as a term of analysed text is more than white space. -/
theorem verbatimOutcome_of_readTerm {query : Query}
    (success : Datatype.text.readTerm column text = .ok query) :
    VerbatimOutcome text (.ok (.text text)) := by
  refine .value fun empty => ?_
  have reason : WordPattern.Refused (trim text.toList) .emptyText := empty ▸ .empty
  have refused : Datatype.text.readTerm column text = .error _ :=
    readTerm_text_eq_error_iff.mpr ⟨_, reason, rfl⟩
  cases refused.symm.trans success

/-- Of the texts that are more than white space, a term refuses those with a fault in their quotes. -/
theorem verbatim_and_refused_iff : (VerbatimOutcome text (.ok (.text text)) ∧
      ∃ fault, Datatype.text.readTerm column text = .error fault) ↔
    WordPattern.QuoteUnbalanced (trim text.toList) ∨ WordPattern.QuotesBlank (trim text.toList) := by
  simp only [readTerm_text_eq_error_iff]
  constructor
  · rintro ⟨⟨nonempty⟩, _, _, refused, _⟩
    generalize trim text.toList = trimmed at nonempty refused
    cases refused with
    | empty => exact absurd rfl nonempty
    | blank blank => exact .inr blank
    | unbalanced unbalanced => exact .inl unbalanced
  · rintro (unbalanced | blank)
    · refine ⟨.value ?_, _, _, .unbalanced unbalanced, rfl⟩
      intro empty
      have quote := unbalanced.1
      simp [empty] at quote
    · refine ⟨.value ?_, _, _, .blank blank, rfl⟩
      obtain ⟨inner, shape, _⟩ := blank
      simp [shape]

/-! ## Sides -/

variable {reads : String → Except Fault Literal → Prop}

theorem readEndpoint_eq_iff (same : ∀ text result, reads text result ↔ Literal.read type text = result)
    {openMark : String} {side : Option String} {inclusive : Bool}
    {result : Except Fault (Endpoint Literal)} :
    type.readEndpoint openMark side inclusive = result ↔
      SideOutcome reads openMark side inclusive result := by
  constructor
  · rintro rfl
    cases side with
    | none => exact .leftOpen (.inl rfl)
    | some text =>
      by_cases marked : text = openMark
      · rw [readEndpoint, if_pos marked]
        exact .leftOpen (.inr (congrArg some marked))
      · rw [readEndpoint, if_neg marked]
        cases read : Literal.read type text with
        | error fault => exact .refused marked ((same _ _).mpr read)
        | ok value =>
          cases inclusive with
          | true => exact .included marked ((same _ _).mpr read)
          | false => exact .excluded marked ((same _ _).mpr read)
  · intro outcome
    cases outcome with
    | leftOpen leftOpen =>
      rcases leftOpen with rfl | rfl
      · rfl
      · exact if_pos rfl
    | included marked read | excluded marked read | refused marked read =>
      rw [readEndpoint, if_neg marked, (same _ _).mp read]
      rfl

/-- The lower end is there before the upper one is asked for. -/
private theorem bind_range_eq_iff {lower upper : Except Fault (Endpoint Literal)}
    {result : Except Fault Query} :
    (do return .range column (← lower) (← upper)) = result ↔
      RangeOutcome column (lower = ·) (upper = ·) result := by
  constructor
  · rintro rfl
    cases lower with
    | error fault => exact .lowerRefused rfl
    | ok low =>
      cases upper with
      | error fault => exact .upperRefused rfl rfl
      | ok high => exact .range rfl rfl
  · rintro (⟨rfl, rfl⟩ | rfl | ⟨rfl, rfl⟩) <;> rfl

theorem readRange_eq_iff (same : ∀ text result, reads text result ↔ Literal.read type text = result)
    {lower upper : Option String} {lowerInclusive upperInclusive : Bool}
    {result : Except Fault Query} :
    type.readRange settings column lower upper lowerInclusive upperInclusive = result ↔
      RangeOutcome column (SideOutcome reads settings.openMark lower lowerInclusive)
        (SideOutcome reads settings.openMark upper upperInclusive) result := by
  have sides (side : Option String) (inclusive : Bool) :
      SideOutcome reads settings.openMark side inclusive =
        (type.readEndpoint settings.openMark side inclusive = ·) :=
    funext fun _ => propext (readEndpoint_eq_iff same).symm
  rw [sides lower, sides upper]
  exact bind_range_eq_iff

end Datatype

/-- An end of a range between texts is the side of a range, whatever the flag if it is unbounded. -/
private theorem Endpoint.IsSide.readEndpoint_eq {endpoint : Endpoint String} {side : Option String}
    {inclusive : Bool} (isSide : endpoint.IsSide side inclusive) (type : Datatype)
    (openMark : String) : type.readEndpoint openMark endpoint.value? endpoint.isInclusive =
      type.readEndpoint openMark side inclusive := by
  cases isSide <;> rfl

namespace Field

theorem readRangeBetween_eq {field : Field} {low high : Endpoint String}
    {lower upper : Option String} {lowerInclusive upperInclusive : Bool}
    (lowSide : low.IsSide lower lowerInclusive) (highSide : high.IsSide upper upperInclusive) :
    field.readRangeBetween low high =
      field.type.readRange {} field.name lower upper lowerInclusive upperInclusive := by
  rw [readRangeBetween, readRange, Datatype.readRange, lowSide.readEndpoint_eq,
    highSide.readEndpoint_eq]
  rfl

end Field

namespace Datatype

/-- A range of any datatype but analysed text comes of its sides as they come of their texts as terms,
and a range of analysed text as they come of their texts as they stand. A text that will do as a term of
analysed text will do on a side too, and the texts that will do only there are those that a term refuses
for their quotes. The range of a field is that of its type in the column of its name, also between two
ends, and then under the default settings. -/
theorem readRange_eq_iff_outcome (type : Datatype) (settings : Settings) (column : String)
    (lower upper : Option String) (lowerInclusive upperInclusive : Bool) :
    (type ≠ .text → ∀ result,
      type.readRange settings column lower upper lowerInclusive upperInclusive = result ↔
        RangeOutcome column
          (SideOutcome (TermOutcome type column) settings.openMark lower lowerInclusive)
          (SideOutcome (TermOutcome type column) settings.openMark upper upperInclusive) result) ∧
    (∀ result,
      Datatype.text.readRange settings column lower upper lowerInclusive upperInclusive = result ↔
        RangeOutcome column (SideOutcome VerbatimOutcome settings.openMark lower lowerInclusive)
          (SideOutcome VerbatimOutcome settings.openMark upper upperInclusive) result) ∧
    (∀ text query, Datatype.text.readTerm column text = .ok query →
      VerbatimOutcome text (.ok (.text text))) ∧
    (∀ text, (VerbatimOutcome text (.ok (.text text)) ∧
        ∃ fault, Datatype.text.readTerm column text = .error fault) ↔
      WordPattern.QuoteUnbalanced (trim text.toList) ∨ WordPattern.QuotesBlank (trim text.toList)) ∧
    ∀ field : Field,
      field.readRange settings lower upper lowerInclusive upperInclusive =
        field.type.readRange settings field.name lower upper lowerInclusive upperInclusive ∧
      ∀ low high : Endpoint String, low.IsSide lower lowerInclusive → high.IsSide upper upperInclusive →
        field.readRangeBetween low high =
          field.type.readRange {} field.name lower upper lowerInclusive upperInclusive := by
  refine ⟨?_, ?_, ?_, ?_, ?_⟩
  · intro notText result
    exact readRange_eq_iff fun text result => termOutcome_iff notText
  · intro result
    exact readRange_eq_iff fun text result => verbatimOutcome_iff
  · intro text query success
    exact verbatimOutcome_of_readTerm success
  · intro text
    exact verbatim_and_refused_iff
  · intro field
    exact ⟨rfl, fun low high => Field.readRangeBetween_eq⟩

/-- Under a mark of two points, an open side beside one that is not included, and two sides at fault. -/
theorem readRange_of_long :
    Datatype.long ≠ .text ∧
    RangeOutcome "n" (SideOutcome (TermOutcome .long "n") ".." (some " +7") false)
      (SideOutcome (TermOutcome .long "n") ".." (some "..") false)
      (.ok (.range "n" (.excluded (.long 7)) .unbounded)) ∧
    RangeOutcome "n" (SideOutcome (TermOutcome .long "n") ".." (some "*") true)
      (SideOutcome (TermOutcome .long "n") ".." (some "x") true)
      (.error (.invalidLiteral .long "*" .invalidDigit)) := by
  have notText : Datatype.long ≠ .text := by decide
  have ranges := (readRange_eq_iff_outcome .long { openMark := ".." } "n" (some " +7") (some "..")
    false false).1 notText
  have faults := (readRange_eq_iff_outcome .long { openMark := ".." } "n" (some "*") (some "x")
    true true).1 notText
  exact ⟨notText, (ranges _).mp (by decide), (faults _).mp (by decide)⟩

end Datatype

end FieldSearch
