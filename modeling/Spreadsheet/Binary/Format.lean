/-!
# Binary floating-point formats

A format has finitely many finite magnitudes, all of them multiples of one smallest unit
`2 ^ (-scale)`. They are numbered in increasing order, and a magnitude is known by its rank. The
first `2 ^ fractionBits` ranks are the multiples below that power; from there on each binade holds
`2 ^ fractionBits` magnitudes, with steps twice as wide as in the binade before. The rank is also
the magnitude's interchange bit pattern.

Rounding a ratio to the nearest magnitude finds a rank, with ties to the even rank.
-/

namespace Spreadsheet

namespace Binary

/-- A binary floating-point format. -/
structure Format where
  /-- Binary digits after the leading one of a magnitude. -/
  fractionBits : Nat
  /-- The smallest unit is `2 ^ (-scale)`. -/
  scale : Nat
  /-- Exponents of the finite magnitudes. -/
  exponents : Nat
deriving DecidableEq

/-- The format of 64-bit numbers. -/
def Format.double : Format where
  fractionBits := 52
  scale := 1074
  exponents := 2047

/-- The format of 32-bit numbers. -/
def Format.single : Format where
  fractionBits := 23
  scale := 149
  exponents := 255

/-- The integer nearest to `num / den`, an exact half going to the even neighbour. -/
def roundHalfEven (num den : Nat) : Nat :=
  let low := num / den
  let rest := 2 * (num % den)
  if rest < den then low
  else if den < rest then low + 1
  else low + low % 2

namespace Format

variable (f : Format)

/-- Magnitudes in one binade. -/
def binade : Nat :=
  Nat.pow 2 f.fractionBits

/-- Smallest units in the number one. -/
def unitsPerOne : Nat :=
  Nat.pow 2 f.scale

/-- How many finite magnitudes there are. -/
def count : Nat :=
  f.exponents * f.binade

/-- The magnitude of a rank, in smallest units. -/
def units (rank : Nat) : Nat :=
  if rank < f.binade then rank
  else (f.binade + rank % f.binade) * Nat.pow 2 (rank / f.binade - 1)

/-- The rank of the magnitude nearest to `num / den` smallest units, an exact half going to the
even rank. Ranks from `count` on are out of the format's reach. -/
def nearest (num den : Nat) : Nat :=
  let shift := (num / den).log2 - f.fractionBits
  shift * f.binade + roundHalfEven num (den * Nat.pow 2 shift)

/-- Every binade holds at least one rank, so that ranks can be divided by it. -/
theorem binade_pos : 0 < f.binade :=
  Nat.two_pow_pos _

/-- One is a positive number of smallest units, in every format. -/
theorem unitsPerOne_pos : 0 < f.unitsPerOne :=
  Nat.two_pow_pos _

/-- The rank zero has the magnitude zero: it is the number without any unit. -/
@[simp] theorem units_zero : f.units 0 = 0 := by
  simp [units, f.binade_pos]

end Format

end Binary

end Spreadsheet
