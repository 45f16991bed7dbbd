import Spreadsheet.Csv.Reading
import Spreadsheet.Csv.Writing
import Spreadsheet.Sheet.Basic

/-!
# Sheets and comma-separated values

Importing replaces the cells at the addresses it gives and evaluates nothing. Exporting writes the
texts that the cells show, all columns and rows up to the extent.
-/

namespace Spreadsheet

namespace Sheet

/-- Stores each text as a plain cell. -/
def putTexts (s : Sheet) (cells : List (Address × String)) : Sheet :=
  cells.foldl (fun s (a, value) => s.put a (.plain value)) s

/-- Adds the cells that the bytes give, and tells how many they are. -/
def importCsv (s : Sheet) (bytes : List UInt8) : Except Csv.Error (Sheet × Nat) := do
  let cells ← Csv.read bytes
  return (s.putTexts cells, cells.length)

/-- The texts that the sheet shows, row by row up to the extent. -/
def table (s : Sheet) : List (List String) :=
  match s.extent? with
  | none => []
  | some (columns, rows) =>
    (List.range' 1 rows).map fun row =>
      (List.range' 1 columns).map fun column =>
        ((Address.ofNumbers? column row).map s.display).getD ""

/-- The texts that the sheet shows, as comma-separated values. -/
def exportCsv (s : Sheet) : String :=
  Csv.write s.table

end Sheet

end Spreadsheet
