import Spreadsheet.Grid.Address

/-!
# Rectangular ranges

A range is given by two corners and covers the cells between them, row by row. When the second
corner lies above or left of the first, the range is reversed and covers nothing.
-/

namespace Spreadsheet

/-- A rectangle of cells, from its upper left to its lower right corner. -/
structure Range where
  first : Address
  last : Address
deriving DecidableEq

namespace Range

/-- The range of one cell. -/
def single (a : Address) : Range :=
  ⟨a, a⟩

/-! ### Extent -/

/-- Columns covered. -/
def width (r : Range) : Nat :=
  r.last.column.val + 1 - r.first.column.val

/-- Rows covered. -/
def height (r : Range) : Nat :=
  r.last.row.val + 1 - r.first.row.val

/-- Cells covered. -/
def cellCount (r : Range) : Nat :=
  r.height * r.width

/-- The columns covered, from left to right. -/
def columns (r : Range) : List Index :=
  Index.interval r.first.column r.last.column

/-- The rows covered, from top to bottom. -/
def rows (r : Range) : List Index :=
  Index.interval r.first.row r.last.row

/-- The cells covered, row by row. -/
def cells (r : Range) : List Address :=
  if r.cellCount = 0 then []
  else
    let columns := r.columns
    r.rows.flatMap fun row => columns.map fun column => ⟨row, column⟩

/-- The first `n` cells covered, found without listing the rest. -/
def firstCells (r : Range) (n : Nat) : List Address :=
  (List.range (min n r.cellCount)).filterMap fun (i : Nat) =>
    r.first.offset? (i % r.width) (i / r.width)

/-- Membership in a range is membership in both of its intervals. -/
theorem mem_cells {r : Range} {a : Address} :
    a ∈ r.cells ↔
      (r.first.row.val ≤ a.row.val ∧ a.row.val ≤ r.last.row.val) ∧
      r.first.column.val ≤ a.column.val ∧ a.column.val ≤ r.last.column.val := by
  unfold cells
  split
  · rename_i h
    simp only [cellCount, Nat.mul_eq_zero, height, width] at h
    simp only [List.not_mem_nil, false_iff]
    omega
  · simp only [List.mem_flatMap, List.mem_map, rows, columns, Index.mem_interval]
    constructor
    · rintro ⟨row, hr, column, hc, rfl⟩
      exact ⟨hr, hc⟩
    · rintro ⟨hr, hc⟩
      exact ⟨a.row, hr, a.column, hc, rfl⟩

/-! ### Text -/

/-- The characters of a range: its corners joined by a colon. -/
def chars (r : Range) : List Char :=
  r.first.chars ++ ':' :: r.last.chars

/-- A range as a text. -/
def text (r : Range) : String :=
  String.ofList r.chars

/-- The range that the characters write: one address, or two joined by a colon. -/
def read? (cs : List Char) : Option Range :=
  match cs.dropWhile (· ≠ ':') with
  | [] => (Address.read? cs).map single
  | _ :: second => do
    let first ← Address.read? (cs.takeWhile (· ≠ ':'))
    let last ← Address.read? second
    return ⟨first, last⟩

/-- The range that a text names. -/
def ofText? (s : String) : Option Range :=
  read? s.toList

/-- The range that a text names, or the error that it names none. -/
def ofText (s : String) : Except AddressError Range :=
  match ofText? s with
  | some r => .ok r
  | none => .error (.badRange s)

end Range

end Spreadsheet
