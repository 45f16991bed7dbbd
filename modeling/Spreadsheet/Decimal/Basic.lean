/-!
# Decimal numbers and their texts

A decimal is a natural number times a power of ten. It is read from the texts that people write,
`12`, `.5`, `7.`, `1.5e-3`, and written positionally, without an exponent.
-/

namespace Spreadsheet

/-- The number `digits * 10 ^ exponent`. -/
structure Decimal where
  digits : Nat
  exponent : Int
deriving DecidableEq

namespace Decimal

/-! ### Reading -/

/-- The decimal of a whole part, a fraction and an exponent, each given by its digits. -/
def ofParts (whole fraction : List Char) (exponent : Int) : Decimal where
  digits := Nat.ofDigitChars 10 (whole ++ fraction) 0
  exponent := exponent - fraction.length

/-- A sequence of one or more digits, with an optional sign. -/
def readExponent? (cs : List Char) : Option Int :=
  let unsigned? (ds : List Char) : Option Nat :=
    if ds ≠ [] ∧ ds.all Char.isDigit then some (Nat.ofDigitChars 10 ds 0) else none
  match cs with
  | '+' :: ds => (unsigned? ds).map Int.ofNat
  | '-' :: ds => (unsigned? ds).map fun n => -Int.ofNat n
  | ds => (unsigned? ds).map Int.ofNat

/-- The decimal that the characters write: digits with at most one point among or around them, at
least one digit, and an optional exponent. -/
def read? (cs : List Char) : Option Decimal :=
  let whole := cs.takeWhile Char.isDigit
  let afterWhole := cs.dropWhile Char.isDigit
  let fraction := match afterWhole with
    | '.' :: rest => rest.takeWhile Char.isDigit
    | _ => []
  let tail := match afterWhole with
    | '.' :: rest => rest.dropWhile Char.isDigit
    | rest => rest
  if whole ++ fraction = [] then none
  else match tail with
    | [] => some (ofParts whole fraction 0)
    | mark :: rest =>
      if mark = 'e' ∨ mark = 'E' then (readExponent? rest).map (ofParts whole fraction) else none

/-! ### Writing -/

/-- The digits `digits`, with `places` of them after the point, written with a zero before the
point when no digit is left there. -/
def placePoint (digits : List Char) (places : Nat) : List Char :=
  if places = 0 then digits
  else if places < digits.length then
    digits.take (digits.length - places) ++ '.' :: digits.drop (digits.length - places)
  else '0' :: '.' :: (List.replicate (places - digits.length) '0' ++ digits)

/-- Positional notation, without an exponent. -/
def positional (d : Decimal) : List Char :=
  if d.digits = 0 then ['0']
  else match d.exponent with
    | .ofNat n => Nat.toDigits 10 d.digits ++ List.replicate n '0'
    | .negSucc n => placePoint (Nat.toDigits 10 d.digits) (n + 1)

/-- Removes one trailing zero of `digits` after another, each into the exponent. -/
def strip (digits : Nat) (exponent : Int) : Decimal :=
  if digits % 10 = 0 ∧ digits ≠ 0 then strip (digits / 10) (exponent + 1)
  else ⟨digits, exponent⟩
termination_by digits

/-- The same number with a last digit other than zero. -/
def normalize (d : Decimal) : Decimal :=
  strip d.digits d.exponent

end Decimal

end Spreadsheet
