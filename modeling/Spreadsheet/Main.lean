import Spreadsheet.CommandLine.Run

/-!
# The program

Looks at the files that the arguments name, runs the command line on them, and then prints its
output and messages and writes the file that it wrote.
-/

namespace Spreadsheet

namespace Program

/-- What is at a path. -/
def look (path : String) : IO (Option Entry) := do
  try
    return some (.file (← IO.FS.readBinFile path))
  catch
    | .inappropriateType .. => return some .directory
    | _ => return none

/-- The path of the directory that a path lies in. -/
def parent (path : String) : String :=
  let above := "/".intercalate ((path.splitOn "/").dropLast)
  if above ≠ "" then above else if path.startsWith "/" then "/" else "."

/-- The entries at some paths and in the directories that they lie in. -/
def lookAll (paths : List String) : IO (List (String × Entry)) := do
  let mut found := []
  for path in paths.flatMap fun path => [parent path, path] do
    if let some e ← look path then found := found ++ [(path, e)]
  return found

/-- Runs the words of a command line. -/
def run (words : List String) : IO UInt32 := do
  let current := Files.components (← IO.currentDir).toString
  let usual := Settings.usualPath (← IO.getEnv "XDG_CONFIG_HOME") (← IO.getEnv "HOME")
  let args := ((CommandLine.Arguments.read words).toOption).getD {}
  let paths := usual.toList ++ args.settingsFile.toList ++ args.csvFile.toList ++
    args.outputFile.toList
  let files := Files.ofList current (← lookAll paths)
  let report := CommandLine.run files usual words
  IO.print report.output
  for message in report.messages do
    IO.eprintln message
  if report.exitCode = 0 ∧ !args.help then
    if let some path := args.outputFile then
      if let .ok content := report.files.read path then
        IO.FS.writeBinFile path content
  return UInt32.ofNat report.exitCode

end Program

end Spreadsheet

/-- The program. -/
def main (words : List String) : IO UInt32 :=
  Spreadsheet.Program.run words
