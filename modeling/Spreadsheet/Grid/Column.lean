import Spreadsheet.Grid.Index

/-!
# Column letters

Columns are named `A` to `Z`, `AA` to `ZZ`, `AAA` and so on: bijective base twenty-six with the
letters as digits one to twenty-six.
-/

namespace Spreadsheet

namespace Column

/-- The number that a letter stands for, from one. -/
def letterValue (c : Char) : Nat :=
  c.toNat - 64

/-- The letter that stands for `d + 1`. -/
def letter (d : Nat) : Char :=
  Char.ofNat (65 + d)

/-- The number that a sequence of letters stands for. -/
def value (letters : List Char) : Nat :=
  letters.foldl (fun n c => 26 * n + letterValue c) 0

/-- The letters of `n`, placed in front of `rest`; zero has none. -/
def lettersOnto (n : Nat) (rest : List Char) : List Char :=
  if n = 0 then rest
  else lettersOnto ((n - 1) / 26) (letter ((n - 1) % 26) :: rest)
termination_by n

/-- The letters of a column. -/
def letters (column : Index) : List Char :=
  lettersOnto column.val []

/-- The column that a sequence of capital letters names, if the grid has it. -/
def read? (cs : List Char) : Option Index :=
  if cs.all Char.isUpper then Index.ofNat? (value cs) else none

/-- The letters of a column as a text. -/
def name (column : Index) : String :=
  String.ofList (letters column)

end Column

end Spreadsheet
