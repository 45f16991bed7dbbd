import Spreadsheet.CommandLine.Arguments
import Spreadsheet.Settings.Loading
import Spreadsheet.Sheet.Files

/-!
# Running a command line

A run loads the settings, imports the cells of a file, makes the commits, evaluates the commands
and writes the sheet to a file, in this order. It stops at the first file that cannot be loaded or
written; formulas that fail and problems with the settings do not stop it.
-/

namespace Spreadsheet

namespace CommandLine

/-- What a run leaves behind. -/
structure Report where
  exitCode : Nat
  /-- What is printed. -/
  output : String
  /-- Messages beside the output. -/
  messages : List String
  files : Files

/-- A message about an error. -/
def errorLine (message : String) : String :=
  "Error: " ++ message

/-- The message for a file that cannot be used, with the cause behind it. -/
def fileErrorLine (activity path : String) (e : SheetError) : String :=
  let causes := [activity ++ " " ++ path, e.message] ++ e.cause?.toList
  errorLine (": ".intercalate causes)

/-- The sheet that a run computes with: the imported cells, then the commits in order. -/
def prepare (files : Files) (limits : Limits) (args : Arguments) : Except SheetError Sheet := do
  let empty : Sheet := { limits }
  let imported ← match args.csvFile with
    | none => pure empty
    | some path => (empty.importFile files path).map (·.1)
  return args.commits.foldl (fun s (a, input) => (s.commit a input).1) imported

/-- The lines that the commands print. -/
def commandOutput (s : Sheet) (commands : List String) : String :=
  String.join (commands.map fun formula => Formula.display (s.evaluate formula) ++ "\n")

/-- Runs arguments that were read and ask for no help. -/
def runArguments (files : Files) (usualSettings : Option String) (args : Arguments) : Report :=
  let (limits, warnings) := Settings.load files args.settingsFile usualSettings
  let messages := warnings.map fun w => "Warning: " ++ w.message
  match prepare files limits args with
  | .error e =>
    let path := args.csvFile.getD ""
    ⟨1, "", messages ++ [fileErrorLine "Failed to load" path e], files⟩
  | .ok s =>
    let output := commandOutput s args.commands
    match args.outputFile with
    | none => ⟨0, output, messages, files⟩
    | some path =>
      match s.exportFile files path with
      | .ok written => ⟨0, output, messages ++ ["Exported to " ++ path], written⟩
      | .error e => ⟨1, output, messages ++ [fileErrorLine "Failed to write" path e], files⟩

/-- Runs the words of a command line. -/
def run (files : Files) (usualSettings : Option String) (words : List String) : Report :=
  match Arguments.read words with
  | .error e => ⟨1, "", errorLine e.message :: usage, files⟩
  | .ok args =>
    if args.help then ⟨0, "", usage, files⟩
    else runArguments files usualSettings args

end CommandLine

end Spreadsheet
