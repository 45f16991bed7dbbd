import Spreadsheet.Grid.Column
import Std.Data.ExtTreeMap

/-!
# Cell addresses

An address is a row and a column of the grid, written as the column's letters and the row's
numeral: `B3`, `AA100`. Addresses are ordered row by row, and from left to right within a row.
-/

namespace Spreadsheet

open Std (TransOrd TransCmp LawfulEqOrd)

/-- The place of a cell. -/
structure Address where
  row : Index
  column : Index
deriving DecidableEq

/-- Why a text names no place on the grid. -/
inductive AddressError where
  | badAddress (text : String)
  | badRange (text : String)
deriving DecidableEq

/-- The wording of an address error. -/
def AddressError.message : AddressError → String
  | .badAddress text => "Invalid cell reference: " ++ text
  | .badRange text => "Invalid range: " ++ text

namespace Address

/-! ### Order -/

/-- Row by row, and from left to right within a row. -/
def rowMajor : Address → Address → Ordering :=
  compareLex (compareOn (·.row.val)) (compareOn (·.column.val))

instance : Ord Address := ⟨rowMajor⟩

instance : TransOrd Address :=
  inferInstanceAs (TransCmp
    (compareLex (compareOn fun a : Address => a.row.val) (compareOn fun a => a.column.val)))

instance : LawfulEqOrd Address where
  eq_of_compare {a b} h := by
    have h : rowMajor a b = .eq := h
    simp [rowMajor, compareLex, compareOn, Ordering.then_eq_eq] at h
    cases a; cases b; simp_all

instance : Hashable Address where
  hash a := mixHash (hash a.row.val) (hash a.column.val)

/-! ### Moving -/

/-- The address `columns` further right and `rows` further down, if the grid has it. -/
def offset? (a : Address) (columns rows : Int) : Option Address := do
  let column ← a.column.shift? columns
  let row ← a.row.shift? rows
  return ⟨row, column⟩

/-- The address with given column and row numbers, if the grid has it. -/
def ofNumbers? (column row : Nat) : Option Address := do
  let column ← Index.ofNat? column
  let row ← Index.ofNat? row
  return ⟨row, column⟩

/-! ### Text -/

/-- The characters of an address. -/
def chars (a : Address) : List Char :=
  Column.letters a.column ++ Nat.toDigits 10 a.row.val

/-- An address as a text. -/
def text (a : Address) : String :=
  String.ofList a.chars

/-- The row that digits without a leading zero name, if the grid has it. -/
def readRow? (digits : List Char) : Option Index :=
  if digits.all Char.isDigit ∧ digits.head? ≠ some '0' then
    Index.ofNat? (Nat.ofDigitChars 10 digits 0)
  else none

/-- The address that the characters write: capital letters, then a row. -/
def read? (cs : List Char) : Option Address := do
  let column ← Column.read? (cs.takeWhile Char.isUpper)
  let row ← readRow? (cs.dropWhile Char.isUpper)
  return ⟨row, column⟩

/-- The address that a text names. -/
def ofText? (s : String) : Option Address :=
  read? s.toList

/-- The address that a text names, or the error that it names none. -/
def ofText (s : String) : Except AddressError Address :=
  match ofText? s with
  | some a => .ok a
  | none => .error (.badAddress s)

end Address

end Spreadsheet
