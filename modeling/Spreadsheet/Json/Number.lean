import Spreadsheet.Binary.Shortest
import Spreadsheet.Json.Basic
import Spreadsheet.Json.Token

/-!
# Binary numbers in JSON

A written number is read in two steps: its digits are taken as far as they fit 64 bits, and the
power of ten is applied in double precision. Whole numbers of 64 bits are read exactly.

Numbers are written with the shortest digits that read back, of two equally near ones the even one,
and always with a point or an exponent.
-/

namespace Spreadsheet

namespace Json

open Binary (Format)

/-! ### Reading -/

/-- The largest number of 64 bits. -/
def largestWord : Nat := 18446744073709551615

/-- The magnitude of the least negative number of 64 bits. -/
def largestNegated : Nat := 9223372036854775808

/-- Adds digits to a number as long as it fits 64 bits; gives the number and the digits left. -/
def absorb (n : Nat) : List Char → Nat × List Char
  | [] => (n, [])
  | d :: ds =>
    let next := 10 * n + (d.toNat - 48)
    if next ≤ largestWord then absorb next ds else (n, d :: ds)

/-- A power of ten up to the largest in double precision. -/
def powerOfTen (n : Nat) : Number :=
  Binary.ofDecimal false ⟨1, n⟩

/-- The largest exponent of a power of ten in double precision. -/
def largestPower : Nat := 308

/-- Divides by a power of ten, by the largest one at a time. -/
def divideByPower (x : Number) (n : Nat) : Number :=
  if n ≤ largestPower then x / powerOfTen n
  else if x.isZero then x
  else divideByPower (x / powerOfTen largestPower) (n - largestPower)
termination_by n
decreasing_by
  simp only [largestPower] at *
  omega

/-- The number `n * 10 ^ exponent` in double precision, unless it is too large. -/
def scale? (n : Nat) (exponent : Int) : Option Number :=
  let x : Number := .ofNat n
  match exponent with
  | .negSucc k => some (divideByPower x (k + 1))
  | .ofNat k =>
    if k ≤ largestPower then
      let product := x * powerOfTen k
      if product.isFinite then some product else none
    else if x.isZero then some x
    else none

/-- The parts of an unsigned number: whole digits, digits behind the point, and the exponent. -/
def splitNumber (cs : List Char) : List Char × List Char × Option Int :=
  let whole := cs.takeWhile Char.isDigit
  let (fraction, rest) := match cs.dropWhile Char.isDigit with
    | '.' :: rest => (rest.takeWhile Char.isDigit, rest.dropWhile Char.isDigit)
    | rest => ([], rest)
  (whole, fraction, Decimal.readExponent? rest.tail)

/-- The number that the characters of an unsigned number give in another format. -/
def readUnsigned? {f : Format} (negative : Bool) (cs : List Char) : Option (Binary f) :=
  let signed {g : Format} (x : Binary g) : Binary g := if negative then -x else x
  let (whole, fraction, exponent) := splitNumber cs
  let (n, left) := absorb 0 whole
  if left = [] ∧ fraction = [] ∧ exponent = none then
    if negative && (n = 0 || largestNegated < n) then some (signed (.ofNat n : Number)).convert
    else some (signed (.ofNat n))
  else
    let (n, unread) := absorb n fraction
    let shift : Int := left.length - (fraction.length - unread.length)
    (scale? n (shift + exponent.getD 0)).map fun x => (signed x).convert

/-- The number that a written number gives in another format, unless it is too large. -/
def readNumber? {f : Format} (written : String) : Option (Binary f) :=
  match written.toList with
  | '-' :: cs => readUnsigned? true cs
  | cs => readUnsigned? false cs

/-! ### Writing -/

/-- Digits before the point up to which a number is written without an exponent. -/
def widestWhole : Int := 13

/-- Zeros behind the point up to which a number below one is written without an exponent. -/
def mostZeros : Int := 5

/-- An exponent with its sign, also when it is positive. -/
def exponentChars (power : Int) : List Char :=
  if 0 ≤ power then '+' :: Nat.toDigits 10 power.natAbs else '-' :: Nat.toDigits 10 power.natAbs

/-- The digits of a decimal with a point or an exponent. -/
def decimalChars (d : Decimal) : List Char :=
  let digits := Nat.toDigits 10 d.digits
  let whole : Int := digits.length + d.exponent
  if d.digits = 0 then ['0', '.', '0']
  else if 0 ≤ d.exponent ∧ whole ≤ widestWhole then
    digits ++ List.replicate d.exponent.toNat '0' ++ ['.', '0']
  else if -mostZeros ≤ whole ∧ whole ≤ widestWhole then d.positional
  else
    let power := exponentChars (whole - 1)
    match digits with
    | [digit] => digit :: 'e' :: power
    | digit :: more => digit :: '.' :: more ++ 'e' :: power
    | [] => []

/-- A number as a value; one that is not finite is written as `null`. -/
def ofBinary {f : Format} : Binary f → Json
  | .finite negative rank =>
    let chars := decimalChars (f.shortest .even rank)
    .number (String.ofList (if negative then '-' :: chars else chars))
  | _ => .null

end Json

end Spreadsheet
