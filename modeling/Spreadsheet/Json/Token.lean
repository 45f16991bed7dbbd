/-!
# JSON tokens

A JSON text is a sequence of marks, words, numbers and strings with spaces, tabs and line breaks
between them. Every token takes at least one character, so splitting a text ends.
-/

namespace Spreadsheet

namespace Json

/-- A token of a JSON text. -/
inductive Token where
  | openObject
  | closeObject
  | openArray
  | closeArray
  | comma
  | colon
  | null
  | bool (b : Bool)
  | number (written : String)
  /-- A string; without content when an escape names half of a surrogate pair. -/
  | string (content : Option String)
deriving DecidableEq

/-! ### Numbers -/

/-- A character that occurs in numbers. -/
def isNumberChar (c : Char) : Bool :=
  c.isDigit || c == '-' || c == '+' || c == '.' || c == 'e' || c == 'E'

/-- One or more digits and nothing else. -/
def isDigits (cs : List Char) : Bool :=
  !cs.isEmpty && cs.all Char.isDigit

/-- Nothing, or an exponent mark with an optional sign and digits. -/
def isExponent : List Char → Bool
  | [] => true
  | mark :: '+' :: ds => (mark == 'e' || mark == 'E') && isDigits ds
  | mark :: '-' :: ds => (mark == 'e' || mark == 'E') && isDigits ds
  | mark :: ds => (mark == 'e' || mark == 'E') && isDigits ds

/-- Nothing, or a point with digits, then an optional exponent. -/
def isFraction : List Char → Bool
  | '.' :: cs => isDigits (cs.takeWhile Char.isDigit) && isExponent (cs.dropWhile Char.isDigit)
  | cs => isExponent cs

/-- Digits without a leading zero, an optional fraction and an optional exponent. -/
def isUnsignedNumber : List Char → Bool
  | '0' :: cs => isFraction cs
  | cs => isDigits (cs.takeWhile Char.isDigit) && isFraction (cs.dropWhile Char.isDigit)

/-- A number of JSON: an optional minus sign and an unsigned number. -/
def isNumber : List Char → Bool
  | '-' :: cs => isUnsignedNumber cs
  | cs => isUnsignedNumber cs

/-! ### Strings -/

/-- The value of a hexadecimal digit. -/
def hexValue? (c : Char) : Option Nat :=
  if c.isDigit then some (c.toNat - 48)
  else if 'a' ≤ c ∧ c ≤ 'f' then some (c.toNat - 87)
  else if 'A' ≤ c ∧ c ≤ 'F' then some (c.toNat - 55)
  else none

/-- The number that four hexadecimal digits write. -/
def hexUnit? (a b c d : Char) : Option Nat := do
  return 4096 * (← hexValue? a) + 256 * (← hexValue? b) + 16 * (← hexValue? c) + (← hexValue? d)

/-- The character that a one-letter escape stands for. -/
def escaped? : Char → Option Char
  | '"' => some '"'
  | '\\' => some '\\'
  | '/' => some '/'
  | 'b' => some '\x08'
  | 'f' => some '\x0c'
  | 'n' => some '\n'
  | 'r' => some '\r'
  | 't' => some '\t'
  | _ => none

/-- First half of a surrogate pair. -/
def isHighHalf (unit : Nat) : Bool :=
  0xD800 ≤ unit && unit < 0xDC00

/-- Second half of a surrogate pair. -/
def isLowHalf (unit : Nat) : Bool :=
  0xDC00 ≤ unit && unit < 0xE000

/-- Reads a string up to its closing quote. Gives the characters, whether all escapes name
characters, and what follows the quote. -/
def scanString (acc : List Char) (wellFormed : Bool) :
    List Char → Option (List Char × Bool × List Char)
  | [] => none
  | '"' :: rest => some (acc.reverse, wellFormed, rest)
  | '\\' :: 'u' :: a :: b :: c :: d :: '\\' :: 'u' :: e :: f :: g :: h :: rest =>
    match hexUnit? a b c d with
    | none => none
    | some unit =>
      if isHighHalf unit then
        match hexUnit? e f g h with
        | none => none
        | some next =>
          if isLowHalf next then
            let point := 0x10000 + 0x400 * (unit - 0xD800) + (next - 0xDC00)
            scanString (Char.ofNat point :: acc) wellFormed rest
          else scanString acc false ('\\' :: 'u' :: e :: f :: g :: h :: rest)
      else if isLowHalf unit then
        scanString acc false ('\\' :: 'u' :: e :: f :: g :: h :: rest)
      else
        scanString (Char.ofNat unit :: acc) wellFormed ('\\' :: 'u' :: e :: f :: g :: h :: rest)
  | '\\' :: 'u' :: a :: b :: c :: d :: rest =>
    match hexUnit? a b c d with
    | none => none
    | some unit =>
      if isHighHalf unit || isLowHalf unit then scanString acc false rest
      else scanString (Char.ofNat unit :: acc) wellFormed rest
  | '\\' :: c :: rest =>
    match escaped? c with
    | none => none
    | some c => scanString (c :: acc) wellFormed rest
  | c :: rest => if c.toNat < 0x20 then none else scanString (c :: acc) wellFormed rest

/-- What follows the closing quote is shorter than what was scanned: each step goes on behind at
least one character. -/
theorem scanString_shortens {acc : List Char} {wellFormed : Bool} {cs : List Char}
    {result : List Char × Bool × List Char} (h : scanString acc wellFormed cs = some result) :
    result.2.2.length < cs.length := by
  fun_induction scanString acc wellFormed cs
  -- The text ends, or an escape or a character is not allowed.
  case case1 | case3 | case4 | case9 | case12 | case14 => cases h
  -- The closing quote.
  case case2 rest =>
    cases h
    exact Nat.lt_succ_self rest.length
  case case5 ih | case6 ih | case7 ih | case8 ih | case10 ih | case11 ih | case13 ih | case15 ih =>
    have hrest := ih h
    simp only [List.length_cons] at hrest ⊢
    omega

/-! ### Splitting a text -/

/-- The characters that may stand between tokens. -/
def isSpace (c : Char) : Bool :=
  c == ' ' || c == '\t' || c == '\n' || c == '\r'

/-- The token of a single mark. -/
def mark? : Char → Option Token
  | '\x7b' => some .openObject
  | '\x7d' => some .closeObject
  | '[' => some .openArray
  | ']' => some .closeArray
  | ',' => some .comma
  | ':' => some .colon
  | _ => none

/-- The token of a word. -/
def word? (cs : List Char) : Option Token :=
  if cs = "null".toList then some .null
  else if cs = "true".toList then some (.bool true)
  else if cs = "false".toList then some (.bool false)
  else none

/-- The first token of the characters, which start with `c`, and what follows it. -/
def firstToken? (c : Char) (cs : List Char) : Option (Token × List Char) :=
  match mark? c with
  | some token => some (token, cs)
  | none =>
    if c = '"' then
      (scanString [] true cs).map fun (content, wellFormed, rest) =>
        (.string (if wellFormed then some (String.ofList content) else none), rest)
    else if isNumberChar c then
      let written := c :: cs.takeWhile isNumberChar
      if isNumber written then
        some (.number (String.ofList written), cs.dropWhile isNumberChar)
      else none
    else
      (word? (c :: cs.takeWhile Char.isAlpha)).map fun token =>
        (token, cs.dropWhile Char.isAlpha)

/-- A token takes its first character at least. -/
theorem firstToken?_shortens {c : Char} {cs : List Char} {token : Token} {rest : List Char}
    (h : firstToken? c cs = some (token, rest)) : rest.length ≤ cs.length := by
  have hdrop (p : Char → Bool) : (cs.dropWhile p).length ≤ cs.length :=
    (List.dropWhile_sublist p).length_le
  simp only [firstToken?] at h
  split at h
  case h_1 mark hmark =>
    cases h
    exact Nat.le_refl cs.length
  case h_2 =>
    split at h
    case isTrue hquote =>
      obtain ⟨⟨content, wellFormed, behind⟩, hscan, hresult⟩ := Option.map_eq_some_iff.mp h
      cases hresult
      exact Nat.le_of_lt (scanString_shortens hscan)
    case isFalse =>
      split at h
      case isTrue hnumber =>
        obtain ⟨-, hresult⟩ := Option.ite_none_right_eq_some.mp h
        cases hresult
        exact hdrop isNumberChar
      case isFalse =>
        obtain ⟨word, -, hresult⟩ := Option.map_eq_some_iff.mp h
        cases hresult
        exact hdrop Char.isAlpha

/-- The tokens of a JSON text, placed after those of `acc` in reverse. -/
def tokensAfter (acc : List Token) (cs : List Char) : Option (List Token) :=
  match cs with
  | [] => some acc.reverse
  | c :: rest =>
    if isSpace c then tokensAfter acc rest
    else match _ : firstToken? c rest with
      | none => none
      | some (token, rest') => tokensAfter (token :: acc) rest'
termination_by cs.length
decreasing_by
  · simp only [List.length_cons]
    omega
  · have := firstToken?_shortens ‹_›
    simp only [List.length_cons]
    omega

/-- The tokens of a JSON text, or nothing when some part of it is no token. -/
def tokens? (s : String) : Option (List Token) :=
  tokensAfter [] s.toList

end Json

end Spreadsheet
