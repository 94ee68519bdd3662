import FieldSearch.Toml.Layout

/-! # TOML strings

A string is basic, between double quotes and with escapes, or literal, between single quotes and
without. Either may run over several lines between triple quotes. The writer takes the plainest of
the four forms that can hold the text.
-/

namespace FieldSearch.Toml

open Text

/-- The character whose code is written in exactly this many hexadecimal digits. -/
def hexCharacter (width : Nat) : Reading Char := fun text =>
  let field := text.take width
  match field.mapM hexDigit? with
  | none => none
  | some values =>
    let code := values.foldl (16 * · + ·) 0
    if h : field.length = width ∧ code.isValidChar then
      some (Char.ofNatAux code h.2, text.drop width)
    else none

/-- The character that an escape stands for, behind its backslash. -/
def escape : Reading Char
  | 'b' :: rest => some ('\x08', rest)
  | 't' :: rest => some ('\t', rest)
  | 'n' :: rest => some ('\n', rest)
  | 'f' :: rest => some ('\x0c', rest)
  | 'r' :: rest => some ('\r', rest)
  | '"' :: rest => some ('"', rest)
  | '\\' :: rest => some ('\\', rest)
  | 'u' :: rest => hexCharacter 4 rest
  | 'U' :: rest => hexCharacter 8 rest
  | _ => none

theorem length_le_of_hexCharacter {width : Nat} {text rest : List Char} {c : Char}
    (h : hexCharacter width text = some (c, rest)) : rest.length ≤ text.length := by
  unfold hexCharacter at h
  dsimp only at h
  split at h
  · cases h
  · rename_i values _
    by_cases valid :
      (text.take width).length = width ∧ (values.foldl (16 * · + ·) 0).isValidChar
    · rw [dif_pos valid] at h
      cases h
      rw [List.length_drop]
      exact Nat.sub_le ..
    · rw [dif_neg valid] at h
      cases h

theorem length_lt_of_escape {text rest : List Char} {c : Char}
    (h : escape text = some (c, rest)) : rest.length < text.length := by
  unfold escape at h
  split at h
  case h_8 => exact Nat.lt_succ_of_le (length_le_of_hexCharacter h)
  case h_9 => exact Nat.lt_succ_of_le (length_le_of_hexCharacter h)
  all_goals cases h
  all_goals exact Nat.lt_succ_self _

/-- The rest of a basic string on one line, its closing quote included. -/
def basicLine : Reading (List Char)
  | [] => none
  | '"' :: rest => some ([], rest)
  | '\\' :: rest =>
    match h : escape rest with
    | none => none
    | some (c, behind) =>
      have := length_lt_of_escape h
      (basicLine behind).map fun (cs, rest) => (c :: cs, rest)
  | c :: rest => if isPlain c then (basicLine rest).map fun (cs, rest) => (c :: cs, rest) else none
termination_by text => text.length
decreasing_by all_goals (simp only [List.length_cons]; omega)

/-- The text behind the spaces and line ends that a backslash at the end of a line removes. -/
def skipContinuation? (text : List Char) : Option (List Char) :=
  (skipNewline? (skipSpaces text)).map skipBlank
where
  /-- The text behind any spaces, tabs and line ends. -/
  skipBlank : List Char → List Char
    | '\n' :: rest => skipBlank rest
    | '\r' :: '\n' :: rest => skipBlank rest
    | c :: rest => if isSpace c then skipBlank rest else c :: rest
    | [] => []

theorem length_skipBlank_le (text : List Char) :
    (skipContinuation?.skipBlank text).length ≤ text.length := by
  fun_induction skipContinuation?.skipBlank text with
  | case1 rest ih => exact Nat.le_succ_of_le ih
  | case2 rest ih => exact Nat.le_succ_of_le (Nat.le_succ_of_le ih)
  | case3 c rest _ _ _ ih => exact Nat.le_succ_of_le ih
  | case4 => exact Nat.le_refl _
  | case5 => exact Nat.le_refl _

theorem length_lt_of_skipNewline? {text rest : List Char} (h : skipNewline? text = some rest) :
    rest.length < text.length := by
  unfold skipNewline? at h
  split at h
  · cases h
    exact Nat.lt_succ_self _
  · cases h
    exact Nat.lt_succ_of_lt (Nat.lt_succ_self _)
  · cases h

theorem length_lt_of_skipContinuation? {text rest : List Char}
    (h : skipContinuation? text = some rest) : rest.length < text.length := by
  obtain ⟨behind, hb, rfl⟩ := Option.map_eq_some_iff.1 h
  have := length_skipBlank_le behind
  have := length_lt_of_skipNewline? hb
  have : (skipSpaces text).length ≤ text.length := (List.dropWhile_sublist _).length_le
  omega

/-- The rest of a basic string over several lines, its closing quotes included. One or two quotes
more may stand right before them. -/
def basicLines : Reading (List Char)
  | [] => none
  | '"' :: '"' :: '"' :: '"' :: '"' :: rest => some (['"', '"'], rest)
  | '"' :: '"' :: '"' :: '"' :: rest => some (['"'], rest)
  | '"' :: '"' :: '"' :: rest => some ([], rest)
  | '\\' :: rest =>
    match h : escape rest with
    | some (c, behind) =>
      have := length_lt_of_escape h
      (basicLines behind).map fun (cs, rest) => (c :: cs, rest)
    | none =>
      match h : skipContinuation? rest with
      | none => none
      | some behind =>
        have := length_lt_of_skipContinuation? h
        basicLines behind
  | '\n' :: rest => (basicLines rest).map fun (cs, rest) => ('\n' :: cs, rest)
  | '\r' :: '\n' :: rest => (basicLines rest).map fun (cs, rest) => ('\n' :: cs, rest)
  | c :: rest => if isPlain c then (basicLines rest).map fun (cs, rest) => (c :: cs, rest) else none
termination_by text => text.length
decreasing_by all_goals (simp only [List.length_cons]; omega)

/-- The rest of a literal string on one line, its closing quote included. -/
def literalLine : Reading (List Char)
  | [] => none
  | '\'' :: rest => some ([], rest)
  | c :: rest =>
    if isPlain c then (literalLine rest).map fun (cs, rest) => (c :: cs, rest) else none

/-- The rest of a literal string over several lines, its closing quotes included. One or two quotes
more may stand right before them. -/
def literalLines : Reading (List Char)
  | [] => none
  | '\'' :: '\'' :: '\'' :: '\'' :: '\'' :: rest => some (['\'', '\''], rest)
  | '\'' :: '\'' :: '\'' :: '\'' :: rest => some (['\''], rest)
  | '\'' :: '\'' :: '\'' :: rest => some ([], rest)
  | '\n' :: rest => (literalLines rest).map fun (cs, rest) => ('\n' :: cs, rest)
  | '\r' :: '\n' :: rest => (literalLines rest).map fun (cs, rest) => ('\n' :: cs, rest)
  | c :: rest =>
    if isPlain c then (literalLines rest).map fun (cs, rest) => (c :: cs, rest) else none

/-- A line end right behind the opening quotes does not belong to the string. -/
def skipFirstNewline (text : List Char) : List Char :=
  (skipNewline? text).getD text

/-- A string on one line. -/
def readLine : Reading (List Char)
  | '"' :: rest => basicLine rest
  | '\'' :: rest => literalLine rest
  | _ => none

/-- A string in any of the four forms. -/
def readString : Reading (List Char)
  | '"' :: '"' :: '"' :: rest => basicLines (skipFirstNewline rest)
  | '\'' :: '\'' :: '\'' :: rest => literalLines (skipFirstNewline rest)
  | text => readLine text

/-! ## Writing -/

/-- The upper-case hexadecimal digit of a value below sixteen. -/
def hexDigit (value : Nat) : Char :=
  if value < 10 then Char.ofNat ('0'.toNat + value) else Char.ofNat ('A'.toNat + value - 10)

/-- An ASCII control character, neither a tab nor a line feed. -/
def isControl (c : Char) : Bool :=
  (c < ' ' && c ≠ '\t' && c ≠ '\n') || c = '\x7f'

/-- A character other than a quote in a basic string. Line feeds stand for themselves if the string
runs over several lines. -/
def encodeCharacter (severalLines : Bool) (c : Char) : List Char :=
  match c with
  | '\x08' => ['\\', 'b']
  | '\t' => ['\\', 't']
  | '\n' => if severalLines then ['\n'] else ['\\', 'n']
  | '\x0c' => ['\\', 'f']
  | '\r' => ['\\', 'r']
  | '\\' => ['\\', '\\']
  | c =>
    if isControl c then ['\\', 'u', '0', '0', hexDigit (c.toNat / 16), hexDigit (c.toNat % 16)]
    else [c]

/-- The text of a basic string, behind a run of quotes that already has some. A quote that would
make the run longer than two on several lines, or longer than none on one, is escaped. -/
def encodeBasic (severalLines : Bool) (run : Nat) : List Char → List Char
  | [] => []
  | c :: rest =>
    if c = '"' then
      if severalLines ∧ run < 2 then '"' :: encodeBasic severalLines (run + 1) rest
      else '\\' :: '"' :: encodeBasic severalLines 0 rest
    else encodeCharacter severalLines c ++ encodeBasic severalLines 0 rest

/-- The length of the longest run of a character, behind a run that already has some. -/
def longestRun (quote : Char) (run : Nat) : List Char → Nat
  | [] => run
  | c :: rest => if c = quote then longestRun quote (run + 1) rest
    else max run (longestRun quote 0 rest)

/-- The four forms of a string. -/
inductive Form where
  | basicLine
  | basicLines
  | literalLine
  | literalLines
deriving DecidableEq, Repr

/-- The plainest form that holds the text. Without quotes, backslashes and line ends that is the
basic form; then the literal forms avoid escapes where they can. -/
def formOf (text : List Char) : Form :=
  let control := text.any isControl
  let backslash := text.contains '\\'
  let newline := text.contains '\n'
  let doubles := longestRun '"' 0 text
  let singles := longestRun '\'' 0 text
  if !control && !backslash && !newline && doubles = 0 then .basicLine
  else if !control && !newline && singles = 0 then .literalLine
  else if !control && !backslash && doubles ≤ 2 then .basicLines
  else if !control && singles ≤ 2 then .literalLines
  else if newline then .basicLines
  else .basicLine

/-- The line end behind the opening quotes, with which a text on several lines begins. -/
def firstNewline (text : List Char) : List Char :=
  if text.contains '\n' then ['\n'] else []

/-- A string in its plainest form. -/
def encode (text : List Char) : List Char :=
  match formOf text with
  | .basicLine => '"' :: encodeBasic false 0 text ++ ['"']
  | .basicLines =>
    '"' :: '"' :: '"' :: firstNewline text ++ encodeBasic true 0 text ++ ['"', '"', '"']
  | .literalLine => '\'' :: text ++ ['\'']
  | .literalLines => '\'' :: '\'' :: '\'' :: firstNewline text ++ text ++ ['\'', '\'', '\'']

end FieldSearch.Toml
