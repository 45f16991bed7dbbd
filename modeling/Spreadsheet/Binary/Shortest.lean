import Spreadsheet.Binary.Reading

/-!
# The shortest decimal of a magnitude

Of the decimals that read back as a given magnitude, the one with the fewest digits is chosen, and
among those the nearest. For each number of digits only the two neighbours of the exact value on
that decimal grid have to be tried: when any decimal of so many digits reads back, so does one of
them.
-/

namespace Spreadsheet

namespace Binary

/-- Which of two equally near neighbours is chosen. -/
inductive Tie where
  | upper
  | even
deriving DecidableEq

/-- The power of ten that leads `num / den`: the largest `k` with `10 ^ k ≤ num / den`. -/
def leadingExponent (num den : Nat) : Int :=
  if den ≤ num then ((Nat.toDigits 10 (num / den)).length : Int) - 1
  else
    let k := (Nat.toDigits 10 (den / num)).length
    if den ≤ num * Nat.pow 10 (k - 1) then 1 - (k : Int) else -(k : Int)

namespace Format

variable (f : Format)

/-- The better neighbour of a magnitude among the multiples of `10 ^ exponent`, when one of them
reads back. -/
def candidate? (tie : Tie) (rank : Nat) (exponent : Int) : Option Decimal :=
  let num := f.units rank * Nat.pow 10 (-exponent).toNat
  let den := f.unitsPerOne * Nat.pow 10 exponent.toNat
  let low := num / den
  let rest := 2 * (num % den)
  let readsBack (digits : Nat) : Bool := f.nearestDecimal ⟨digits, exponent⟩ = rank
  let lowIsNearer : Bool :=
    rest < den || rest = den && (match tie with | .upper => false | .even => low % 2 == 0)
  match readsBack low, readsBack (low + 1) with
  | true, true => some ⟨if lowIsNearer then low else low + 1, exponent⟩
  | true, false => some ⟨low, exponent⟩
  | false, true => some ⟨low + 1, exponent⟩
  | false, false => none

/-- The exact decimal expansion of a magnitude. -/
def expansion (rank : Nat) : Decimal where
  digits := f.units rank * Nat.pow 5 f.scale
  exponent := -(f.scale : Int)

/-- As many digits as the shortest decimal of a magnitude can need: seventeen serve the widest
format in use. -/
def digitLimit : Nat := 17

/-- The shortest decimal that reads back as a magnitude. -/
def shortest (tie : Tie) (rank : Nat) : Decimal :=
  let lead := leadingExponent (f.units rank) f.unitsPerOne
  let found := (List.range digitLimit).findSome? fun (n : Nat) => f.candidate? tie rank (lead - n)
  (found.getD (f.expansion rank)).normalize

end Format

variable {f : Format}

/-- The text of a number in positional notation: the shortest decimal that reads back, of two
equally near ones the upper. -/
def text : Binary f → String
  | .nan => "NaN"
  | .infinite negative => if negative then "-inf" else "inf"
  | .finite negative rank =>
    let digits := (f.shortest .upper rank).positional
    String.ofList (if negative then '-' :: digits else digits)

end Binary

end Spreadsheet
