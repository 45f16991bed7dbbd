import Spreadsheet.Cell.Content
import Spreadsheet.Grid.Range

/-!
# Chart series

A range gives labelled points. Its first row holds column headers when more than half of the texts
there are not numeric, and its first column holds row headers likewise. With row headers every row
is a point, with column headers alone every column is, and without headers every cell is. A point
sums the numbers of its cells, and points of value zero are dropped.
-/

namespace Spreadsheet

namespace Series

/-- A labelled value. -/
structure Point where
  name : String
  value : Number
deriving DecidableEq

variable (cells : Snapshot)

/-- The number at an address; zero when the text there is missing or not numeric. -/
def numberAt (a : Address) : Number :=
  ((cells a).bind Number.ofCellText?).getD .zero

/-- The sum of the numbers at some addresses. -/
def sumAt (addresses : List Address) : Number :=
  Binary.sum (addresses.map (numberAt cells))

/-- The texts at some addresses that are not empty. -/
def textsAt (addresses : List Address) : List String :=
  (addresses.filterMap cells).filter (· ≠ "")

/-- More than half of the texts at some addresses are not numeric. -/
def areHeaders (addresses : List Address) : Bool :=
  let texts := textsAt cells addresses
  texts.length < 2 * (texts.filter fun s => (Number.ofCellText? s).isNone).length

/-- The first row of a range holds column headers. -/
def hasColumnHeaders (r : Range) : Bool :=
  areHeaders cells (r.columns.map fun column => ⟨r.first.row, column⟩)

/-- The first column of a range holds row headers. -/
def hasRowHeaders (r : Range) : Bool :=
  areHeaders cells (r.rows.map fun row => ⟨row, r.first.column⟩)

/-- The text of a header cell, or another label when the cell is missing or empty. -/
def label (header : Address) (otherwise : String) : String :=
  match cells header with
  | some s => if s = "" then otherwise else s
  | none => otherwise

/-- The point of a row with a header. -/
def rowPoint (r : Range) (row : Index) : Point where
  name := label cells ⟨row, r.first.column⟩ s!"Row {row.val}"
  value := sumAt cells (r.columns.tail.map fun column => ⟨row, column⟩)

/-- The point of a column with a header. -/
def columnPoint (r : Range) (column : Index) : Point where
  name := label cells ⟨r.first.row, column⟩ ("Col " ++ Column.name column)
  value := sumAt cells (r.rows.tail.map fun row => ⟨row, column⟩)

/-- The point of a cell without headers. -/
def cellPoint (a : Address) : Point where
  name := a.text
  value := numberAt cells a

/-- The points of a range, those of value zero included. -/
def points (r : Range) : List Point :=
  match hasRowHeaders cells r, hasColumnHeaders cells r with
  | true, true => r.rows.tail.map (rowPoint cells r)
  | true, false => r.rows.map (rowPoint cells r)
  | false, true => r.columns.map (columnPoint cells r)
  | false, false => r.cells.map (cellPoint cells)

/-- The points of a range with a value other than zero. -/
def extract (r : Range) : List Point :=
  (points cells r).filter fun p => !p.value.isZero

end Series

end Spreadsheet
