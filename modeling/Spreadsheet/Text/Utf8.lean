/-!
# UTF-8

How far a sequence of bytes is well-formed UTF-8: one to four bytes a character, the shortest form
only, no surrogates and nothing beyond the last code point.
-/

namespace Spreadsheet.Text.Utf8

/-- A byte that continues a character. -/
def isTail (b : UInt8) : Bool :=
  0x80 ≤ b && b ≤ 0xBF

/-- The second byte of a three-byte character, which rules out longer forms than needed and
surrogates. -/
def isSecondOfThree (a b : UInt8) : Bool :=
  (if a = 0xE0 then 0xA0 else 0x80) ≤ b && b ≤ (if a = 0xED then 0x9F else 0xBF)

/-- The second byte of a four-byte character, which rules out longer forms than needed and code
points beyond the last. -/
def isSecondOfFour (a b : UInt8) : Bool :=
  (if a = 0xF0 then 0x90 else 0x80) ≤ b && b ≤ (if a = 0xF4 then 0x8F else 0xBF)

/-- The number of bytes that the first character takes, or nothing when no character starts the
sequence. -/
def firstSize? : List UInt8 → Option Nat
  | a :: rest =>
    if a < 0x80 then some 1
    else if 0xC2 ≤ a ∧ a ≤ 0xDF then
      match rest with
      | b :: _ => if isTail b then some 2 else none
      | _ => none
    else if 0xE0 ≤ a ∧ a ≤ 0xEF then
      match rest with
      | b :: c :: _ => if isSecondOfThree a b && isTail c then some 3 else none
      | _ => none
    else if 0xF0 ≤ a ∧ a ≤ 0xF4 then
      match rest with
      | b :: c :: d :: _ => if isSecondOfFour a b && isTail c && isTail d then some 4 else none
      | _ => none
    else none
  | [] => none

/-- The number of bytes before the first one that belongs to no character, after `before` bytes
and with `left` bytes still to be passed over. -/
def validLengthFrom (before left : Nat) : List UInt8 → Nat
  | [] => before
  | a :: rest =>
    match left with
    | left + 1 => validLengthFrom (before + 1) left rest
    | 0 =>
      match firstSize? (a :: rest) with
      | some size => validLengthFrom (before + 1) (size - 1) rest
      | none => before

/-- The number of bytes before the first one that belongs to no character. -/
def validLength (bytes : List UInt8) : Nat :=
  validLengthFrom 0 0 bytes

/-- The text that the bytes encode, or how many of them are well-formed. -/
def decode (bytes : List UInt8) : Except Nat String :=
  match String.fromUTF8? ⟨bytes.toArray⟩ with
  | some s => .ok s
  | none => .error (validLength bytes)

/-- The bytes that encode a text. -/
def encode (s : String) : List UInt8 :=
  s.toUTF8.data.toList

/-- What was encoded is decoded to the same text: encoding loses nothing. -/
@[simp] theorem decode_encode (s : String) : decode (encode s) = .ok s := by
  have h : String.fromUTF8? s.toByteArray = some s := by
    simp only [String.fromUTF8?, Option.dite_none_right_eq_some, Option.some.injEq]
    exact ⟨s.isValidUTF8, rfl⟩
  simp [decode, encode, h]

end Spreadsheet.Text.Utf8
