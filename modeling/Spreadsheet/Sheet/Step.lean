import Spreadsheet.Cell.Series
import Spreadsheet.Settings.Json
import Spreadsheet.Sheet.Clipboard
import Spreadsheet.Sheet.Files
import Spreadsheet.Sheet.Json

/-!
# Steps on a sheet

A step is one request of a user, with addresses and ranges as they were typed. It changes the sheet
in place and gives either its outcome or an error. The address of a step is read before anything
else, and nothing is changed before all that can fail is done.
-/

namespace Spreadsheet

/-- A request of a user. -/
inductive Step where
  | commit (place input : String)
  | resubmit (place : String)
  | evaluate (formula : String)
  | display (place : String)
  | formula (place : String)
  | cell (place : String)
  | clear (place : String)
  | restyle (place : String) (patch : StylePatch)
  | copy (places : List String)
  | cut (places : List String)
  | paste (place : String) (adjust : Bool)
  | importBytes (bytes : List UInt8)
  | exportText
  | importFile (path : String) (files : Files)
  | exportFile (path : String) (files : Files)
  | chart (range : String)
  | setLimits (given : Option Json)
  | json

/-- What a step gives. -/
inductive Outcome where
  | nothing
  | evaluation (outcome : Except Formula.Error Value)
  | text (content : String)
  | noText
  | cell (stored : Option Cell)
  | count (n : Nat)
  | points (series : List Series.Point)
  | limits (limits : Limits)

namespace Sheet

/-- The address that a step names. -/
def place (text : String) : Except SheetError Address :=
  match Address.ofText? text with
  | some a => .ok a
  | none => .error (.badAddress text)

/-- The range that a step names. -/
def block (text : String) : Except SheetError Range :=
  match Range.ofText? text with
  | some r => .ok r
  | none => .error (.badRange text)

/-- The limits that a step gives, the defaults when it gives none. -/
def newLimits : Option Json → Except SheetError Limits
  | none => .ok {}
  | some given =>
    match Limits.ofJson? given with
    | some limits => .ok limits
    | none => .error .badLimits

/-- An evaluation that may not have taken place. -/
def evaluated : Option (Except Formula.Error Value) → Outcome
  | some outcome => .evaluation outcome
  | none => .nothing

/-- A formula that may be missing. -/
def written : Option String → Outcome
  | some formula => .text formula
  | none => .noText

/-- The path of a step's file: a relative path starts in the directory of the files. -/
def within (path : String) : String :=
  if path.startsWith "/" then path else "./" ++ path

/-- A computation that changes a sheet in place: what it changed before it fails stays changed. -/
abbrev Editing := ExceptT SheetError (StateM Sheet)

/-- Adds the cells that the bytes give, and tells how many they are. -/
def importInPlace (bytes : List UInt8) : Editing Nat := do
  let cells ← (Csv.read bytes).mapError SheetError.csv
  modify (·.putTexts cells)
  return cells.length

/-- Adds the cells of a file, and tells how many they are. -/
def importFileInPlace (files : Files) (path : String) : Editing Nat := do
  let content ← (files.read path).mapError SheetError.file
  importInPlace content.data.toList

/-- Pastes the clipboard with its anchor on the target, and tells how many cells are pasted. A cut
clipboard is gone afterwards. -/
def pasteInPlace (target : Address) (adjust : Bool) : Editing Nat := do
  match (← get).clipboard with
  | some ⟨kind, (anchor, cell) :: others⟩ =>
    let count ← modifyGet fun s =>
      (s.pasteCells anchor target adjust ((anchor, cell) :: others)).swap
    if kind = .cut then modify fun s => { s with clipboard := none }
    return count
  | _ => throw .emptyClipboard

/-- Carries out a request on a sheet in place. -/
def perform : Step → Editing Outcome
  | .commit spot input => do
    let a ← place spot
    let outcome ← modifyGet fun s => (s.commit a input).swap
    return evaluated outcome
  | .resubmit spot => do
    let a ← place spot
    let outcome ← modifyGet fun s => (s.resubmit a).swap
    return evaluated outcome
  | .evaluate formula => return .evaluation ((← get).evaluate formula)
  | .display spot => do
    let a ← place spot
    return .text ((← get).display a)
  | .formula spot => do
    let a ← place spot
    return written ((← get).formula? a)
  | .cell spot => do
    let a ← place spot
    return .cell ((← get).cell? a)
  | .clear spot => do
    let a ← place spot
    let stored := (← get).cell? a
    modify (·.remove a)
    return .cell stored
  | .restyle spot patch => do
    let a ← place spot
    modify (·.restyle a patch)
    return .nothing
  | .copy places => do
    let addresses ← (places.mapM place : Except SheetError (List Address))
    let captured := (← get).capture addresses
    modify (·.copy addresses)
    return .count captured.length
  | .cut places => do
    let addresses ← (places.mapM place : Except SheetError (List Address))
    let captured := (← get).capture addresses
    modify (·.cut addresses)
    return .count captured.length
  | .paste spot adjust => do
    let target ← place spot
    return .count (← pasteInPlace target adjust)
  | .importBytes bytes => return .count (← importInPlace bytes)
  | .exportText => return .text (← get).exportCsv
  | .importFile path files => return .count (← importFileInPlace files (within path))
  | .exportFile path files => do
    let s ← get
    let _ ← s.exportFile files (within path)
    return .text s.exportCsv
  | .chart range => do
    let r ← block range
    return .points (Series.extract (← get).snapshot r)
  | .setLimits given => do
    let limits ← newLimits given
    modify fun s => { s with limits }
    return .limits limits
  | .json => return .text (← get).json

/-- The sheet after a step, and the step's outcome or error. -/
def step (s : Sheet) (request : Step) : Sheet × Except SheetError Outcome :=
  let (result, next) := (perform request).run.run s
  (next, result)

end Sheet

end Spreadsheet
