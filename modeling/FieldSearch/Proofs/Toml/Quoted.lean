import FieldSearch.Toml.Quoted
import Mathlib.Data.List.Basic

/-! # Strings read back from their forms

A string is read back from any form that can hold it, whatever follows, unless that begins with a quote.
The form that the writer takes for a text can hold it, so what is written is read back.
-/

namespace FieldSearch.Toml

open Text

variable {c : Char} {text rest : List Char} {severalLines : Bool} {run : Nat}

/-! ## Characters -/

theorem isPlain_of_isControl_eq_false (free : isControl c = false) (notFeed : c ≠ '\n') :
    isPlain c = true := by
  simp only [isControl, Bool.or_eq_false_iff, Bool.and_eq_false_iff, decide_eq_false_iff_not] at free
  simp only [isPlain, Bool.or_eq_true, Bool.and_eq_true, decide_eq_true_eq]
  obtain ⟨visible, notDelete⟩ := free
  by_cases tab : c = '\t'
  · exact .inl tab
  · exact .inr ⟨by simpa [tab, notFeed] using visible, notDelete⟩

/-- A character of a kind is none that is not of the kind. -/
theorem ne_of_kind {kind : Char → Bool} {d : Char} (inside : kind c = true) (outside : kind d = false) :
    c ≠ d := by
  rintro rfl
  cases inside.symm.trans outside

theorem toNat_lt_of_isControl (control : isControl c = true) : c.toNat < 256 := by
  simp only [isControl, Bool.or_eq_true, Bool.and_eq_true, decide_eq_true_eq] at control
  rcases control with ⟨⟨low, _⟩, _⟩ | rfl
  · have below : c.toNat < ' '.toNat := low
    have space : ' '.toNat = 32 := by decide
    omega
  · decide

theorem hexDigit?_hexDigit : ∀ value < 16, hexDigit? (hexDigit value) = some value := by
  decide

theorem ofNatAux_eq {code : Nat} (valid : code.isValidChar) (same : code = c.toNat) :
    Char.ofNatAux code valid = c := by
  subst same
  rfl

theorem hexCharacter_hexDigit (low : c.toNat < 256) (rest : List Char) :
    hexCharacter 4 ('0' :: '0' :: hexDigit (c.toNat / 16) :: hexDigit (c.toNat % 16) :: rest) =
      some (c, rest) := by
  have zero : hexDigit? '0' = some 0 := by decide
  have upper := hexDigit?_hexDigit (c.toNat / 16) (by omega)
  have lower := hexDigit?_hexDigit (c.toNat % 16) (by omega)
  have values : ['0', '0', hexDigit (c.toNat / 16), hexDigit (c.toNat % 16)].mapM hexDigit? =
      some [0, 0, c.toNat / 16, c.toNat % 16] := by
    simp [zero, upper, lower]
  have code : [0, 0, c.toNat / 16, c.toNat % 16].foldl (16 * · + ·) 0 = c.toNat := by
    simpa using Nat.div_add_mod c.toNat 16
  have valid : ([0, 0, c.toNat / 16, c.toNat % 16].foldl (16 * · + ·) 0).isValidChar := by
    rw [code]
    exact c.valid
  unfold hexCharacter
  dsimp only [List.take_succ_cons, List.take_zero]
  rw [values]
  dsimp only
  rw [dif_pos ⟨rfl, valid⟩, ofNatAux_eq _ code]
  rfl

/-- How a character stands between the quotes of a basic string. -/
inductive Encoded (severalLines : Bool) (c : Char) : List Char → Prop
  | escaped {code : List Char} : (∀ rest, escape (code ++ rest) = some (c, rest)) →
      Encoded severalLines c ('\\' :: code)
  | plain : isPlain c = true → c ≠ '"' → c ≠ '\\' → Encoded severalLines c [c]
  | lineFeed : severalLines = true → c = '\n' → Encoded severalLines c ['\n']

theorem encoded_encodeCharacter (severalLines : Bool) (notQuote : c ≠ '"') :
    Encoded severalLines c (encodeCharacter severalLines c) := by
  unfold encodeCharacter
  split
  · exact .escaped fun rest => rfl
  · exact .escaped fun rest => rfl
  · split
    · rename_i several
      exact .lineFeed several rfl
    · exact .escaped fun rest => rfl
  · exact .escaped fun rest => rfl
  · exact .escaped fun rest => rfl
  · exact .escaped fun rest => rfl
  · rename_i notFeed _ _ notBackslash
    split
    · rename_i control
      exact .escaped fun rest => hexCharacter_hexDigit (toNat_lt_of_isControl control) rest
    · rename_i free
      have plain := isPlain_of_isControl_eq_false (Bool.eq_false_iff.mpr free) notFeed
      exact .plain plain notQuote notBackslash

/-- An escaped quote. -/
theorem encoded_quote (severalLines : Bool) : Encoded severalLines '"' ['\\', '"'] :=
  .escaped fun _ => rfl

/-- No quote comes first where a character is encoded. -/
theorem Encoded.exists_cons {written : List Char} (encoded : Encoded severalLines c written) :
    ∃ d behind, written = d :: behind ∧ d ≠ '"' ∧ d ≠ '\r' ∧ (d = '\n' → c = '\n') := by
  cases encoded with
  | @escaped code reads => exact ⟨'\\', code, rfl, by decide, by decide, fun same => absurd same (by decide)⟩
  | plain plain notQuote notBackslash =>
    exact ⟨c, [], rfl, notQuote, ne_of_kind plain (by decide), id⟩
  | lineFeed several same => exact ⟨'\n', [], rfl, by decide, by decide, fun _ => same⟩

/-! ## Basic strings on one line -/

theorem basicLine_escaped {code behind : List Char} (escaped : escape code = some (c, behind)) :
    basicLine ('\\' :: code) = (basicLine behind).map fun (cs, rest) => (c :: cs, rest) := by
  rw [basicLine]
  split
  · rename_i none
    cases none.symm.trans escaped
  · rename_i other
    cases other.symm.trans escaped
    rfl

theorem Encoded.basicLine {written : List Char} (encoded : Encoded false c written) (rest : List Char) :
    basicLine (written ++ rest) = (basicLine rest).map fun (cs, rest) => (c :: cs, rest) := by
  cases encoded with
  | escaped reads => exact basicLine_escaped (reads rest)
  | plain plain notQuote notBackslash =>
    rw [List.singleton_append, Toml.basicLine, if_pos plain]
    · exact notQuote
    · exact notBackslash
  | lineFeed several _ => cases several

theorem basicLine_encodeBasic (text rest : List Char) :
    basicLine (encodeBasic false run text ++ '"' :: rest) = some (text, rest) := by
  induction text generalizing run with
  | nil => rw [encodeBasic, List.nil_append, basicLine]
  | cons c text ih =>
    by_cases quote : c = '"'
    · subst quote
      have step := (encoded_quote false).basicLine (encodeBasic false 0 text ++ '"' :: rest)
      rw [ih] at step
      simpa [encodeBasic] using step
    · have step := (encoded_encodeCharacter false quote).basicLine (encodeBasic false 0 text ++ '"' :: rest)
      rw [ih] at step
      simpa [encodeBasic, quote] using step

/-! ## Basic strings over several lines -/

theorem basicLines_escaped {code behind : List Char} (escaped : escape code = some (c, behind)) :
    basicLines ('\\' :: code) = (basicLines behind).map fun (cs, rest) => (c :: cs, rest) := by
  rw [basicLines]
  split
  · rename_i other
    cases other.symm.trans escaped
    rfl
  · rename_i none
    cases none.symm.trans escaped

theorem Encoded.basicLines {written : List Char} (encoded : Encoded severalLines c written)
    (rest : List Char) :
    basicLines (written ++ rest) = (basicLines rest).map fun (cs, rest) => (c :: cs, rest) := by
  cases encoded with
  | escaped reads => exact basicLines_escaped (reads rest)
  | plain plain notQuote notBackslash =>
    have notFeed : c ≠ '\n' := ne_of_kind plain (by decide)
    have notReturn : c ≠ '\r' := ne_of_kind plain (by decide)
    rw [List.singleton_append, Toml.basicLines, if_pos plain]
    all_goals simp_all
  | lineFeed several same =>
    subst same
    rw [List.singleton_append, Toml.basicLines]

/-- The quotes that close a string over several lines may have one or two of the string in front of them. A
quote that no two others follow is one of the string. -/
structure ClosesByThree (reader : Reading (List Char)) (quote : Char) : Prop where
  inside {rest : List Char} : (∀ behind, rest ≠ quote :: quote :: behind) →
    reader (quote :: rest) = (reader rest).map fun (cs, rest) => (quote :: cs, rest)
  none {rest : List Char} : (∀ behind, rest ≠ quote :: behind) →
    reader (quote :: quote :: quote :: rest) = some ([], rest)
  one {rest : List Char} : (∀ behind, rest ≠ quote :: behind) →
    reader (quote :: quote :: quote :: quote :: rest) = some ([quote], rest)
  two {rest : List Char} :
    reader (quote :: quote :: quote :: quote :: quote :: rest) = some ([quote, quote], rest)

/-- A quote is read in front of what is read, unless three stand together too early. -/
theorem ClosesByThree.cons {reader : Reading (List Char)} {quote : Char} {written : List Char}
    (closes : ClosesByThree reader quote) (stops : ∀ behind, rest ≠ quote :: behind)
    (reads : reader (written ++ quote :: quote :: quote :: rest) = some (text, rest))
    (near : written = [] ∨ written = [quote] ∨
      ∀ behind, written ++ quote :: quote :: quote :: rest ≠ quote :: quote :: behind) :
    reader (quote :: written ++ quote :: quote :: quote :: rest) = some (quote :: text, rest) := by
  rcases near with rfl | rfl | apart
  · cases (closes.none stops).symm.trans reads
    exact closes.one stops
  · cases (closes.one stops).symm.trans reads
    exact closes.two
  · rw [List.cons_append, closes.inside apart, reads]
    rfl

theorem basicLines_closesByThree : ClosesByThree basicLines '"' where
  inside apart := by
    rw [basicLines, if_pos (by decide)]
    case x_1 => exact fun _ _ => apart _
    case x_2 => exact fun _ _ => apart _
    case x_3 => exact fun _ _ => apart _
    all_goals simp
  none stops := by
    rw [basicLines]
    · rintro _ ⟨⟩
      exact stops _ rfl
    · rintro _ ⟨⟩
      exact stops _ rfl
  one stops := by
    rw [basicLines]
    rintro _ ⟨⟩
    exact stops _ rfl
  two := by
    intro rest
    rw [basicLines]

/-- No quote comes first but one that may stand for itself. -/
theorem exists_cons_encodeBasic (text : List Char) (full : c = '"' → ¬ (severalLines = true ∧ run < 2)) :
    ∃ d behind, encodeBasic severalLines run (c :: text) = d :: behind ∧ d ≠ '"' := by
  rw [encodeBasic]
  split
  · rename_i quote
    rw [if_neg (full quote)]
    exact ⟨'\\', _, rfl, by decide⟩
  · rename_i notQuote
    obtain ⟨d, behind, shape, other, _⟩ := (encoded_encodeCharacter severalLines notQuote).exists_cons
    rw [shape]
    exact ⟨d, _, rfl, other⟩

/-- Behind a quote that stands for itself there are not two more, unless the string is at its end. -/
private theorem encodeBasic_behind_quote (run : Nat) (text closing : List Char) :
    encodeBasic true (run + 1) text = [] ∨ encodeBasic true (run + 1) text = ['"'] ∨
      ∀ behind, encodeBasic true (run + 1) text ++ closing ≠ '"' :: '"' :: behind := by
  cases text with
  | nil => exact .inl rfl
  | cons c others =>
    by_cases second : c = '"' ∧ run + 1 < 2
    · obtain ⟨rfl, more⟩ := second
      rw [encodeBasic, if_pos rfl, if_pos ⟨rfl, more⟩]
      cases others with
      | nil => exact .inr (.inl rfl)
      | cons d others =>
        obtain ⟨e, behind, shape, other⟩ :=
          @exists_cons_encodeBasic d true (run + 2) others fun _ => by omega
        refine .inr (.inr fun rest same => ?_)
        rw [shape] at same
        exact other (List.cons_eq_cons.mp (List.cons_eq_cons.mp same).2).1
    · obtain ⟨e, behind, shape, other⟩ :=
        @exists_cons_encodeBasic c true (run + 1) others fun quote full => second ⟨quote, full.2⟩
      refine .inr (.inr fun rest same => ?_)
      rw [shape] at same
      exact other (List.cons_eq_cons.mp same).1

theorem basicLines_encodeBasic (text : List Char) (stops : ∀ behind, rest ≠ '"' :: behind) :
    basicLines (encodeBasic true run text ++ '"' :: '"' :: '"' :: rest) = some (text, rest) := by
  induction text generalizing run with
  | nil => exact basicLines_closesByThree.none stops
  | cons c text ih =>
    by_cases quote : c = '"'
    · subst quote
      by_cases room : run < 2
      · rw [encodeBasic, if_pos rfl, if_pos ⟨rfl, room⟩]
        exact basicLines_closesByThree.cons stops ih (encodeBasic_behind_quote run text _)
      · have step := (encoded_quote true).basicLines (encodeBasic true 0 text ++ '"' :: '"' :: '"' :: rest)
        rw [ih] at step
        simpa [encodeBasic, room] using step
    · have step := (encoded_encodeCharacter true quote).basicLines
        (encodeBasic true 0 text ++ '"' :: '"' :: '"' :: rest)
      rw [ih] at step
      simpa [encodeBasic, quote] using step

/-! ## Literal strings -/

theorem literalLine_append (held : ∀ c ∈ text, isPlain c = true ∧ c ≠ '\'') :
    literalLine (text ++ '\'' :: rest) = some (text, rest) := by
  induction text with
  | nil => rw [List.nil_append, literalLine]
  | cons c text ih =>
    obtain ⟨⟨plain, notQuote⟩, held⟩ := List.forall_mem_cons.mp held
    rw [List.cons_append, literalLine, if_pos plain, ih held]
    · rfl
    · exact notQuote

theorem literalLines_closesByThree : ClosesByThree literalLines '\'' where
  inside apart := by
    rw [literalLines, if_pos (by decide)]
    case x_1 => exact fun _ _ => apart _
    case x_2 => exact fun _ _ => apart _
    case x_3 => exact fun _ _ => apart _
    all_goals simp
  none stops := by
    rw [literalLines]
    · rintro _ ⟨⟩
      exact stops _ rfl
    · rintro _ ⟨⟩
      exact stops _ rfl
  one stops := by
    rw [literalLines]
    rintro _ ⟨⟩
    exact stops _ rfl
  two := by
    intro rest
    rw [literalLines]

theorem literalLines_cons (held : isPlain c = true ∨ c = '\n') (notQuote : c ≠ '\'') :
    literalLines (c :: rest) = (literalLines rest).map fun (cs, rest) => (c :: cs, rest) := by
  rcases held with plain | rfl
  · have notFeed : c ≠ '\n' := ne_of_kind plain (by decide)
    have notReturn : c ≠ '\r' := ne_of_kind plain (by decide)
    rw [literalLines, if_pos plain]
    all_goals simp_all
  · rw [literalLines]

theorem le_longestRun (quote : Char) (run : Nat) (text : List Char) : run ≤ longestRun quote run text := by
  induction text generalizing run with
  | nil => exact Nat.le_refl run
  | cons c text ih =>
    rw [longestRun]
    split
    · exact Nat.le_of_succ_le (ih (run + 1))
    · exact Nat.le_max_left ..

theorem notMem_of_longestRun_eq_zero {quote : Char} (none : longestRun quote run text = 0) :
    quote ∉ text := by
  induction text generalizing run with
  | nil => exact List.not_mem_nil
  | cons c text ih =>
    rw [longestRun] at none
    split at none
    · have long := le_longestRun quote (run + 1) text
      omega
    · rename_i notQuote
      have others := ih (Nat.max_eq_zero_iff.mp none).2
      exact List.not_mem_cons_of_ne_of_not_mem (Ne.symm notQuote) others

private theorem literal_behind_quote {quote : Char} (short : longestRun quote (run + 1) text ≤ 2)
    (closing : List Char) : text = [] ∨ text = [quote] ∨
      ∀ behind, text ++ closing ≠ quote :: quote :: behind := by
  match text with
  | [] => exact .inl rfl
  | [c] =>
    by_cases same : c = quote
    · exact .inr (.inl (by rw [same]))
    · exact .inr (.inr fun behind shape => same (List.cons_eq_cons.mp shape).1)
  | c :: d :: others =>
    refine .inr (.inr fun behind shape => ?_)
    obtain ⟨rfl, shape⟩ := List.cons_eq_cons.mp shape
    obtain ⟨rfl, _⟩ := List.cons_eq_cons.mp shape
    have long := le_longestRun d (run + 1 + 1 + 1) others
    rw [longestRun, if_pos rfl, longestRun, if_pos rfl] at short
    omega

theorem literalLines_append (held : ∀ c ∈ text, isPlain c = true ∨ c = '\n')
    (short : longestRun '\'' run text ≤ 2) (stops : ∀ behind, rest ≠ '\'' :: behind) :
    literalLines (text ++ '\'' :: '\'' :: '\'' :: rest) = some (text, rest) := by
  induction text generalizing run with
  | nil => exact literalLines_closesByThree.none stops
  | cons c text ih =>
    obtain ⟨first, others⟩ := List.forall_mem_cons.mp held
    rw [longestRun] at short
    split at short
    · rename_i quote
      subst quote
      exact literalLines_closesByThree.cons stops (ih others short) (literal_behind_quote short _)
    · rename_i notQuote
      rw [List.cons_append, literalLines_cons first notQuote, ih others (Nat.max_le.mp short).2]
      rfl

/-! ## Forms -/

/-- Whether a text can be held in a form. The basic forms hold any text, since they have escapes. -/
inductive Form.Holds (text : List Char) : Form → Prop
  | basicLine : Holds text .basicLine
  | basicLines : Holds text .basicLines
  | literalLine : (∀ c ∈ text, isPlain c = true ∧ c ≠ '\'') → Holds text .literalLine
  | literalLines : (∀ c ∈ text, isPlain c = true ∨ c = '\n') → longestRun '\'' 0 text ≤ 2 →
      Holds text .literalLines

theorem formOf_holds (text : List Char) : (formOf text).Holds text := by
  have plain (free : text.any isControl = false) : ∀ c ∈ text, isPlain c = true ∨ c = '\n' := by
    intro c member
    have visible : isControl c = false := by
      simpa using List.any_eq_false.mp free c member
    by_cases feed : c = '\n'
    · exact .inr feed
    · exact .inl (isPlain_of_isControl_eq_false visible feed)
  unfold formOf
  dsimp only
  split_ifs with first second third fourth fifth
  · exact .basicLine
  · simp only [Bool.and_eq_true, Bool.not_eq_true', decide_eq_true_eq] at second
    obtain ⟨⟨free, noFeed⟩, noQuote⟩ := second
    refine .literalLine fun c member => ⟨?_, ?_⟩
    · have noFeed : '\n' ∉ text := by simpa using noFeed
      exact (plain free c member).resolve_right fun feed => noFeed (feed ▸ member)
    · rintro rfl
      exact notMem_of_longestRun_eq_zero noQuote member
  · exact .basicLines
  · simp only [Bool.and_eq_true, Bool.not_eq_true', decide_eq_true_eq] at fourth
    exact .literalLines (plain fourth.1) fourth.2
  · exact .basicLines
  · exact .basicLine

theorem exists_cons_encode (text : List Char) :
    ∃ quote body, encode text = quote :: body ∧ (quote = '"' ∨ quote = '\'') := by
  unfold encode
  cases formOf text with
  | basicLine => exact ⟨'"', _, rfl, .inl rfl⟩
  | basicLines => exact ⟨'"', _, rfl, .inl rfl⟩
  | literalLine => exact ⟨'\'', _, rfl, .inr rfl⟩
  | literalLines => exact ⟨'\'', _, rfl, .inr rfl⟩

theorem readString_basic (apart : ∀ behind, rest ≠ '"' :: '"' :: behind) :
    readString ('"' :: rest) = basicLine rest := by
  rw [readString]
  · rfl
  · rintro behind ⟨⟩
    exact apart _ rfl
  · rintro behind ⟨⟩

theorem readString_literal (apart : ∀ behind, rest ≠ '\'' :: '\'' :: behind) :
    readString ('\'' :: rest) = literalLine rest := by
  rw [readString]
  · rfl
  · rintro behind ⟨⟩
  · rintro behind ⟨⟩
    exact apart _ rfl

/-- The line end behind the opening quotes is skipped, and no other. -/
theorem skipFirstNewline_append {body : List Char}
    (kept : '\n' ∉ text → ∃ d behind, body = d :: behind ∧ d ≠ '\n' ∧ d ≠ '\r') :
    skipFirstNewline (firstNewline text ++ body) = body := by
  unfold firstNewline skipFirstNewline
  split
  · rfl
  · rename_i noFeed
    obtain ⟨d, behind, rfl, notFeed, notReturn⟩ := kept (by simpa using noFeed)
    rw [List.nil_append, skipNewline?]
    · rfl
    · rintro _ ⟨⟩
      exact notFeed rfl
    · rintro _ ⟨⟩
      exact notReturn rfl

private theorem readString_basicLine (text : List Char) (stops : ∀ behind, rest ≠ '"' :: behind) :
    readString ('"' :: encodeBasic false 0 text ++ '"' :: rest) = some (text, rest) := by
  rw [List.cons_append, readString_basic, basicLine_encodeBasic]
  cases text with
  | nil =>
    rintro behind ⟨⟩
    exact stops _ rfl
  | cons c text =>
    obtain ⟨d, behind, shape, other⟩ := @exists_cons_encodeBasic c false 0 text (by simp)
    rw [shape]
    exact fun _ same => other (List.cons_eq_cons.mp same).1

private theorem readString_basicLines (text : List Char) (stops : ∀ behind, rest ≠ '"' :: behind) :
    readString ('"' :: '"' :: '"' :: (firstNewline text ++
      (encodeBasic true 0 text ++ '"' :: '"' :: '"' :: rest))) = some (text, rest) := by
  rw [readString, skipFirstNewline_append, basicLines_encodeBasic text stops]
  intro noFeed
  cases text with
  | nil => exact ⟨'"', _, rfl, by decide, by decide⟩
  | cons c text =>
    rw [encodeBasic]
    split
    · exact ⟨'"', _, rfl, by decide, by decide⟩
    · rename_i notQuote
      obtain ⟨d, behind, shape, _, notReturn, feed⟩ := (encoded_encodeCharacter true notQuote).exists_cons
      rw [shape]
      exact ⟨d, _, rfl, fun same => noFeed (feed same ▸ List.mem_cons_self), notReturn⟩

private theorem readString_literalLine (held : ∀ c ∈ text, isPlain c = true ∧ c ≠ '\'')
    (stops : ∀ behind, rest ≠ '\'' :: behind) :
    readString ('\'' :: text ++ '\'' :: rest) = some (text, rest) := by
  rw [List.cons_append, readString_literal, literalLine_append held]
  cases text with
  | nil =>
    rintro behind ⟨⟩
    exact stops _ rfl
  | cons c text =>
    exact fun _ same => (held c List.mem_cons_self).2 (List.cons_eq_cons.mp same).1

private theorem readString_literalLines (held : ∀ c ∈ text, isPlain c = true ∨ c = '\n')
    (short : longestRun '\'' 0 text ≤ 2) (stops : ∀ behind, rest ≠ '\'' :: behind) :
    readString ('\'' :: '\'' :: '\'' :: (firstNewline text ++
      (text ++ '\'' :: '\'' :: '\'' :: rest))) = some (text, rest) := by
  rw [readString, skipFirstNewline_append, literalLines_append held short stops]
  intro noFeed
  cases text with
  | nil => exact ⟨'\'', _, rfl, by decide, by decide⟩
  | cons c text =>
    have plain : isPlain c = true :=
      (held c List.mem_cons_self).resolve_right fun feed => noFeed (feed ▸ List.mem_cons_self)
    exact ⟨c, _, rfl, ne_of_kind plain (by decide), ne_of_kind plain (by decide)⟩

/-- What is written for a text is read back, with anything but a quote behind it. -/
theorem readString_encode (text : List Char) (noBasic : ∀ behind, rest ≠ '"' :: behind)
    (noLiteral : ∀ behind, rest ≠ '\'' :: behind) :
    readString (encode text ++ rest) = some (text, rest) := by
  have holds := formOf_holds text
  unfold encode
  generalize formOf text = form at holds
  cases holds with
  | basicLine => simpa using readString_basicLine text noBasic
  | basicLines => simpa using readString_basicLines text noBasic
  | literalLine held => simpa using readString_literalLine held noLiteral
  | literalLines held short => simpa using readString_literalLines held short noLiteral

end FieldSearch.Toml
