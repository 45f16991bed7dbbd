import Mathlib.Tactic.Common
import Spreadsheet.Csv.Reading
import Spreadsheet.Text.Utf8

/-!
# The bytes of a text

The bytes of a text are those of its characters in a row.  An ASCII character is one byte, its code
point, and every byte of any other character is beyond ASCII, so that the marks of a file format are
found among the bytes exactly where they stand among the characters.
-/

namespace Spreadsheet

namespace Text.Utf8

/-- The bytes of characters. -/
def bytes (cs : List Char) : List UInt8 :=
  cs.flatMap String.utf8EncodeChar

/-- A text is encoded character by character, each one on its own. -/
lemma encode_eq_bytes (s : String) : encode s = bytes s.toList := by
  have h : s.toByteArray = s.toList.utf8Encode := String.utf8Encode_toList.symm
  rw [encode, String.toUTF8_eq_toByteArray, h, List.utf8Encode, bytes]
  simp

@[simp] lemma bytes_nil : bytes [] = [] :=
  rfl

@[simp] lemma bytes_cons (c : Char) (cs : List Char) :
    bytes (c :: cs) = String.utf8EncodeChar c ++ bytes cs :=
  rfl

@[simp] lemma bytes_append (cs ds : List Char) : bytes (cs ++ ds) = bytes cs ++ bytes ds :=
  List.flatMap_append

/-- An ASCII character is a single byte, its own code. -/
lemma bytes_char_of_ascii {c : Char} (h : c.toNat < 128) :
    String.utf8EncodeChar c = [UInt8.ofNat c.toNat] := by
  have hc : c.val.toNat ≤ 0x7f := Nat.le_of_lt_succ h
  simp only [String.utf8EncodeChar, hc, if_true]
  rfl

/-- No byte of a character beyond ASCII is an ASCII character itself. -/
lemma le_of_mem_bytes_char {c : Char} (h : 128 ≤ c.toNat) {b : UInt8}
    (hb : b ∈ String.utf8EncodeChar c) : 128 ≤ b.toNat := by
  have hc : ¬c.val.toNat ≤ 0x7f := Nat.not_le_of_lt h
  simp only [String.utf8EncodeChar, hc, if_false] at hb
  split at hb
  · simp only [List.mem_cons, List.not_mem_nil, or_false] at hb
    rcases hb with rfl | rfl <;> simp <;> omega
  · split at hb
    · simp only [List.mem_cons, List.not_mem_nil, or_false] at hb
      rcases hb with rfl | rfl | rfl <;> simp <;> omega
    · simp only [List.mem_cons, List.not_mem_nil, or_false] at hb
      rcases hb with rfl | rfl | rfl | rfl <;> simp <;> omega

/-- A byte of a character is an ASCII mark only if the character is. -/
lemma mem_bytes_char_iff {c : Char} (mark : Char) (hmark : mark.toNat < 128) :
    UInt8.ofNat mark.toNat ∈ String.utf8EncodeChar c ↔ c = mark := by
  constructor
  · intro h
    by_cases hc : c.toNat < 128
    · rw [bytes_char_of_ascii hc, List.mem_singleton] at h
      have hnat := congrArg UInt8.toNat h
      simp only [UInt8.toNat_ofNat', Nat.reducePow] at hnat
      rw [Nat.mod_eq_of_lt (by omega), Nat.mod_eq_of_lt (by omega)] at hnat
      exact (Char.toNat_inj.mp hnat).symm
    · have hle := le_of_mem_bytes_char (Nat.le_of_not_lt hc) h
      simp only [UInt8.toNat_ofNat', Nat.reducePow] at hle
      omega
  · rintro rfl
    rw [bytes_char_of_ascii hmark]
    exact List.mem_singleton_self _

/-- The byte-order mark is a character, of three bytes. -/
lemma bytes_char_byteOrderMark : String.utf8EncodeChar '\uFEFF' = Csv.byteOrderMark := by
  decide

/-- The bytes start with a byte-order mark when the characters do. -/
lemma isPrefixOf_bytes_iff {cs : List Char} :
    Csv.byteOrderMark.isPrefixOf (bytes cs) = true ↔ '\uFEFF' ∈ cs.head? := by
  rw [List.isPrefixOf_iff_prefix]
  constructor
  · rintro ⟨rest, h⟩
    have hencode : ['\uFEFF'].utf8Encode ++ rest.toByteArray = cs.utf8Encode := by
      rw [List.utf8Encode_singleton, bytes_char_byteOrderMark, ← List.toByteArray_append, h]
      rfl
    obtain ⟨cs', rfl⟩ := List.isPrefix_of_utf8Encode_append_eq_utf8Encode _ hencode
    rfl
  · intro h
    obtain ⟨cs', rfl⟩ := List.head?_eq_some_iff.mp h
    exact ⟨bytes cs', by rw [bytes_cons, bytes_char_byteOrderMark]⟩

end Text.Utf8

end Spreadsheet
