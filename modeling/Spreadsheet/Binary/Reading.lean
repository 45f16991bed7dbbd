import Spreadsheet.Binary.Basic
import Spreadsheet.Decimal.Basic

/-!
# Reading binary numbers from decimal texts

The number of a decimal is the nearest one of the format. Decimals far beyond the format's reach
are recognised by their exponent alone, so that no power of ten is computed that the text does not
pay for with its length.
-/

namespace Spreadsheet

namespace Binary

/-- The rank nearest to a decimal. A positive decimal with an exponent from
`fractionBits + exponents` on lies above every magnitude; one whose digits fall short of the
exponent by more than `scale` lies below half the smallest unit. -/
def Format.nearestDecimal (f : Format) (d : Decimal) : Nat :=
  if d.digits = 0 then 0
  else match d.exponent with
    | .ofNat n =>
      if f.fractionBits + f.exponents ≤ n then f.count
      else f.nearest (d.digits * Nat.pow 10 n * f.unitsPerOne) 1
    | .negSucc n =>
      if d.digits.log2 + f.scale + 2 ≤ n + 1 then 0
      else f.nearest (d.digits * f.unitsPerOne) (Nat.pow 10 (n + 1))

variable {f : Format}

/-- The number nearest to a decimal, or an infinity beyond the largest. -/
def ofDecimal (negative : Bool) (d : Decimal) : Binary f :=
  if h : f.nearestDecimal d < f.count then .finite negative ⟨_, h⟩ else .infinite negative

/-- The number that unsigned characters name: a decimal, or `inf`, `infinity` and `nan` in any
letter case. -/
def readUnsigned? (negative : Bool) (cs : List Char) : Option (Binary f) :=
  let word := cs.map Char.toLower
  if word = "inf".toList ∨ word = "infinity".toList then some (.infinite negative)
  else if word = "nan".toList then some .nan
  else (Decimal.read? cs).map (ofDecimal negative)

/-- The number that the characters name, with an optional sign. -/
def read? : List Char → Option (Binary f)
  | '+' :: cs => readUnsigned? false cs
  | '-' :: cs => readUnsigned? true cs
  | cs => readUnsigned? false cs

/-- The number that a text names. -/
def ofText? (s : String) : Option (Binary f) :=
  read? s.toList

end Binary

end Spreadsheet
