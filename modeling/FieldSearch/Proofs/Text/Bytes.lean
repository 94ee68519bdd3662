import FieldSearch.Text.Digits

/-! # Texts as bytes

A text may also be searched and cut by offsets in its UTF-8 bytes. An ASCII character is found at its
own byte and nowhere inside another character, so an offset found by such a search always lies
between two characters.
-/

namespace FieldSearch.Text

/-- The bytes of a text. -/
def utf8 (text : List Char) : List UInt8 :=
  text.flatMap String.utf8EncodeChar

/-- The byte of an ASCII character. -/
def asciiByte (c : Char) : UInt8 :=
  .ofNat c.toNat

/-- Cut a text at an offset in bytes. There is no cut inside a character or behind the end. -/
def cutAt? : List Char → Nat → Option (List Char × List Char)
  | text, 0 => some ([], text)
  | [], _ + 1 => none
  | c :: text, offset + 1 =>
    if c.utf8Size ≤ offset + 1 then
      (cutAt? text (offset + 1 - c.utf8Size)).map fun (front, back) => (c :: front, back)
    else none

@[simp]
theorem utf8_cons (c : Char) (text : List Char) :
    utf8 (c :: text) = String.utf8EncodeChar c ++ utf8 text :=
  rfl

@[simp]
theorem utf8_append (front back : List Char) : utf8 (front ++ back) = utf8 front ++ utf8 back :=
  List.flatMap_append

theorem utf8_eq_nil_iff {text : List Char} : utf8 text = [] ↔ text = [] := by
  cases text with
  | nil => exact iff_of_true rfl rfl
  | cons c text => simp [String.utf8EncodeChar_ne_nil]

/-- The bytes of a part of a text are an offset at which the text can be cut. -/
theorem cutAt?_length_utf8 (front back : List Char) :
    cutAt? (front ++ back) (utf8 front).length = some (front, back) := by
  induction front with
  | nil => cases back <;> rfl
  | cons c front ih =>
    have positive := c.utf8Size_pos
    obtain ⟨offset, size⟩ : ∃ offset, (utf8 (c :: front)).length = offset + 1 :=
      Nat.exists_eq_add_one.mpr (by simp; omega)
    have total : offset + 1 = c.utf8Size + (utf8 front).length := by simp [← size]
    rw [size, List.cons_append, cutAt?, if_pos (by omega),
      show offset + 1 - c.utf8Size = (utf8 front).length by omega, ih]
    rfl

/-- A text is cut at an offset exactly if its front takes that many bytes. -/
theorem cutAt?_eq_some_iff {text front back : List Char} {offset : Nat} :
    cutAt? text offset = some (front, back) ↔
      text = front ++ back ∧ (utf8 front).length = offset := by
  constructor
  · intro cut
    fun_induction cutAt? text offset generalizing front with
    | case1 text =>
      cases cut
      exact ⟨rfl, rfl⟩
    | case2 => cases cut
    | case3 c text offset fits ih =>
      obtain ⟨⟨inner, _⟩, behind, same⟩ := Option.map_eq_some_iff.mp cut
      cases same
      obtain ⟨rfl, length⟩ := ih behind
      refine ⟨rfl, ?_⟩
      rw [utf8_cons, List.length_append, String.length_utf8EncodeChar]
      omega
    | case4 => cases cut
  · rintro ⟨rfl, rfl⟩
    exact cutAt?_length_utf8 front back

/-- Fronts of one text with as many bytes are the same. -/
theorem append_inj_of_length_utf8 {front back other more : List Char}
    (same : front ++ back = other ++ more) (length : (utf8 front).length = (utf8 other).length) :
    front = other ∧ back = more := by
  have cut := cutAt?_length_utf8 front back
  rw [same, length, cutAt?_length_utf8] at cut
  cases cut
  exact ⟨rfl, rfl⟩

/-- Every byte of a character that takes several lies outside of ASCII. -/
private theorem toNat_eq_of_mem_utf8EncodeChar {c : Char} {byte : UInt8}
    (member : byte ∈ String.utf8EncodeChar c) (ascii : byte.toNat < 128) :
    byte.toNat = c.toNat := by
  have code : c.val.toNat = c.toNat := rfl
  unfold String.utf8EncodeChar at member
  simp only [code] at member
  split at member
  · obtain rfl := List.mem_singleton.mp member
    simp only [UInt8.toNat_ofNat']
    omega
  split at member
  · simp only [List.mem_cons, List.not_mem_nil, or_false] at member
    rcases member with rfl | rfl <;> simp only [UInt8.toNat_ofNat'] at ascii <;> omega
  split at member
  · simp only [List.mem_cons, List.not_mem_nil, or_false] at member
    rcases member with rfl | rfl | rfl <;> simp only [UInt8.toNat_ofNat'] at ascii <;> omega
  · simp only [List.mem_cons, List.not_mem_nil, or_false] at member
    rcases member with rfl | rfl | rfl | rfl <;> simp only [UInt8.toNat_ofNat'] at ascii <;> omega

theorem utf8EncodeChar_ascii {c : Char} (ascii : c.toNat < 128) :
    String.utf8EncodeChar c = [asciiByte c] := by
  have code : c.val.toNat = c.toNat := rfl
  unfold String.utf8EncodeChar
  rw [code, if_pos (by omega)]
  rfl

/-- An ASCII text has a byte for each character. -/
theorem length_utf8_of_ascii {text : List Char} (ascii : ∀ c ∈ text, c.toNat < 128) :
    (utf8 text).length = text.length := by
  induction text with
  | nil => rfl
  | cons c text ih =>
    obtain ⟨first, others⟩ := List.forall_mem_cons.mp ascii
    rw [utf8_cons, utf8EncodeChar_ascii first, List.length_append, ih others, List.length_singleton,
      List.length_cons, Nat.add_comm]

/-- The byte of an ASCII character is among those of a text only if the character is in the text. -/
private theorem mem_of_asciiByte_mem {c : Char} {text : List Char} (ascii : c.toNat < 128)
    (member : asciiByte c ∈ utf8 text) : c ∈ text := by
  obtain ⟨d, inText, inChar⟩ := List.mem_flatMap.mp member
  have byte : (asciiByte c).toNat = c.toNat := by
    simp only [asciiByte, UInt8.toNat_ofNat']
    omega
  have same := toNat_eq_of_mem_utf8EncodeChar inChar (byte ▸ ascii)
  rw [byte, Char.toNat_inj] at same
  exact same ▸ inText

theorem idxOf?_asciiByte_eq_none {c : Char} {text : List Char} (ascii : c.toNat < 128)
    (absent : c ∉ text) : (utf8 text).idxOf? (asciiByte c) = none :=
  List.idxOf?_eq_none_iff.mpr fun member => absent (mem_of_asciiByte_mem ascii member)

/-- The first byte of an ASCII character is behind the bytes of all that is in front of it. -/
theorem idxOf?_asciiByte {c : Char} {front : List Char} (ascii : c.toNat < 128)
    (absent : c ∉ front) (back : List Char) :
    (utf8 (front ++ c :: back)).idxOf? (asciiByte c) = some (utf8 front).length := by
  have missing : asciiByte c ∉ utf8 front := fun member => absent (mem_of_asciiByte_mem ascii member)
  rw [utf8_append, utf8_cons, utf8EncodeChar_ascii ascii]
  generalize utf8 front = bytes at missing
  induction bytes with
  | nil => simp [List.idxOf?_cons]
  | cons byte bytes ih =>
    obtain ⟨other, rest⟩ := List.ne_and_not_mem_of_not_mem_cons missing
    rw [List.cons_append, List.idxOf?_cons, ih rest, if_neg (by simpa using other.symm)]
    rfl

/-- One byte behind an offset that an ASCII character stands at is an offset to cut at too. -/
theorem cutAt?_length_utf8_succ {c : Char} (ascii : c.toNat < 128) (front back : List Char) :
    cutAt? (front ++ c :: back) ((utf8 front).length + 1) = some (front ++ [c], back) := by
  have byte : (utf8 [c]).length = 1 := length_utf8_of_ascii (by simpa using ascii)
  have cut := cutAt?_length_utf8 (front ++ [c]) back
  rwa [List.append_assoc, List.singleton_append, utf8_append, List.length_append, byte] at cut

end FieldSearch.Text
