import Spreadsheet.Files.Basic
import Spreadsheet.Sheet.Table

/-!
# Sheets and files
-/

namespace Spreadsheet

/-- Why a step on a sheet fails. -/
inductive SheetError where
  | badAddress (text : String)
  | badRange (text : String)
  | emptyClipboard
  | csv (e : Csv.Error)
  | file (fault : FileFault)
  | badLimits
deriving DecidableEq

/-- The wording of a sheet error. -/
def SheetError.message : SheetError → String
  | .badAddress text => "Invalid cell address: " ++ text
  | .badRange text => "Invalid range: " ++ text
  | .emptyClipboard => "Clipboard is empty"
  | .csv e => "CSV error: " ++ e.message
  | .file fault => "IO error: " ++ fault.message
  | .badLimits => "Invalid limits"

/-- The wording of the cause behind a sheet error, when there is one. -/
def SheetError.cause? : SheetError → Option String
  | .csv e => some e.message
  | .file fault => some fault.message
  | _ => none

namespace Sheet

/-- Adds the cells of a file, and tells how many they are. -/
def importFile (s : Sheet) (files : Files) (path : String) : Except SheetError (Sheet × Nat) := do
  let content ← (files.read path).mapError .file
  (s.importCsv content.data.toList).mapError .csv

/-- The files after the texts of the sheet are written to one. -/
def exportFile (s : Sheet) (files : Files) (path : String) : Except SheetError Files :=
  (files.write path s.exportCsv.toUTF8).mapError .file

end Sheet

end Spreadsheet
