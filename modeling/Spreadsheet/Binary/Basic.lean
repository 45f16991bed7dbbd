import Spreadsheet.Binary.Format

/-!
# Binary floating-point numbers

A number of a format is not-a-number, an infinity, or a signed finite magnitude; zero has both
signs. Every operation computes its exact result as a ratio of smallest units and rounds once.
Numbers are ordered by value: both zeros are equal, and not-a-number has no place in the order.
-/

namespace Spreadsheet

open Binary (Format)

/-- A number of the format `f`. -/
inductive Binary (f : Format) where
  | nan
  | infinite (negative : Bool)
  | finite (negative : Bool) (rank : Fin f.count)
deriving DecidableEq

/-- The numbers that cells and formulas compute with. -/
abbrev Number := Binary Format.double

namespace Binary

variable {f g : Format}

/-! ### Rounding a ratio -/

/-- The number nearest to `num / den` smallest units, or an infinity beyond the largest. -/
def ofRatio (negative : Bool) (num den : Nat) : Binary f :=
  let rank := f.nearest num den
  if h : rank < f.count then .finite negative ⟨rank, h⟩ else .infinite negative

/-- The number nearest to a natural number. -/
def ofNat (n : Nat) : Binary f :=
  ofRatio false (n * f.unitsPerOne) 1

/-- The number with a given bit pattern: the sign, then the rank. The pattern after the largest
finite rank is infinity, and all later ones are not-a-number. -/
def ofBits (bits : Nat) : Binary f :=
  let signWeight := (f.exponents + 1) * f.binade
  let negative := bits / signWeight % 2 == 1
  let rank := bits % signWeight
  if h : rank < f.count then .finite negative ⟨rank, h⟩
  else if rank = f.count then .infinite negative
  else .nan

/-- The nearest number of another format. -/
def convert : Binary f → Binary g
  | .nan => .nan
  | .infinite negative => .infinite negative
  | .finite negative rank => ofRatio negative (f.units rank * g.unitsPerOne) f.unitsPerOne

/-- Positive zero, the number of a missing cell. -/
def zero : Binary f :=
  ofNat 0

/-- One, the outcome of a comparison that holds. -/
def one : Binary f :=
  ofNat 1

/-! ### Order -/

/-- Neither infinite nor not-a-number. -/
def isFinite : Binary f → Bool
  | .finite _ _ => true
  | _ => false

/-- The place of a number in the order by value: its signed rank. -/
def place? : Binary f → Option Int
  | .nan => none
  | .infinite negative => some (if negative then -f.count else f.count)
  | .finite negative rank => some (if negative then -rank else rank)

/-- Comparison by value. -/
def compare? (x y : Binary f) : Option Ordering :=
  match x.place?, y.place? with
  | some a, some b => some (compare a b)
  | _, _ => none

/-- One of the two zeros. -/
def isZero (x : Binary f) : Bool :=
  x.place? == some 0

/-- Strictly smaller by value. -/
def less (x y : Binary f) : Bool :=
  x.compare? y == some .lt

/-- The larger of two numbers; not-a-number gives way to the other one. -/
def maximum (x y : Binary f) : Binary f :=
  match x, y with
  | .nan, y => y
  | x, .nan => x
  | x, y => if x.less y then y else x

/-- The smaller of two numbers; not-a-number gives way to the other one. -/
def minimum (x y : Binary f) : Binary f :=
  match x, y with
  | .nan, y => y
  | x, .nan => x
  | x, y => if y.less x then y else x

/-! ### Arithmetic -/

/-- A signed magnitude in smallest units. -/
def signedUnits (negative : Bool) (rank : Fin f.count) : Int :=
  if negative then -(f.units rank) else f.units rank

/-- The number of the other sign. -/
def neg : Binary f → Binary f
  | .nan => .nan
  | .infinite negative => .infinite !negative
  | .finite negative rank => .finite (!negative) rank

/-- The sum, rounded; an exact zero is negative only when both terms are. -/
def add : Binary f → Binary f → Binary f
  | .nan, _ => .nan
  | _, .nan => .nan
  | .infinite s, .infinite t => if s = t then .infinite s else .nan
  | .infinite s, .finite _ _ => .infinite s
  | .finite _ _, .infinite t => .infinite t
  | .finite s x, .finite t y =>
    let total := signedUnits s x + signedUnits t y
    ofRatio (if total = 0 then s && t else total < 0) total.natAbs 1

/-- The product, rounded; zero times infinity is not-a-number. -/
def mul : Binary f → Binary f → Binary f
  | .nan, _ => .nan
  | _, .nan => .nan
  | .infinite s, .infinite t => .infinite (s != t)
  | .infinite s, .finite t y => if f.units y = 0 then .nan else .infinite (s != t)
  | .finite s x, .infinite t => if f.units x = 0 then .nan else .infinite (s != t)
  | .finite s x, .finite t y => ofRatio (s != t) (f.units x * f.units y) f.unitsPerOne

/-- The quotient, rounded; a nonzero number over zero is infinite, zero over zero and infinity
over infinity are not-a-number. -/
def div : Binary f → Binary f → Binary f
  | .nan, _ => .nan
  | _, .nan => .nan
  | .infinite _, .infinite _ => .nan
  | .infinite s, .finite t _ => .infinite (s != t)
  | .finite s _, .infinite t => ofRatio (s != t) 0 1
  | .finite s x, .finite t y =>
    if f.units y = 0 then
      if f.units x = 0 then .nan else .infinite (s != t)
    else ofRatio (s != t) (f.units x * f.unitsPerOne) (f.units y)

instance : Neg (Binary f) := ⟨neg⟩

instance : Add (Binary f) := ⟨add⟩

instance : Sub (Binary f) := ⟨fun x y => x + -y⟩

instance : Mul (Binary f) := ⟨mul⟩

instance : Div (Binary f) := ⟨div⟩

/-- The sum of the numbers, added from the left. -/
def sum (xs : List (Binary f)) : Binary f :=
  xs.foldl (· + ·) zero

end Binary

end Spreadsheet
