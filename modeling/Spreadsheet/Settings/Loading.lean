import Spreadsheet.Files.Basic
import Spreadsheet.Settings.Toml

/-!
# Loading settings

A problem with the settings file never stops the program: it gives a warning, and the defaults are
used. Only a file that was asked for has to exist.
-/

namespace Spreadsheet

namespace Settings

/-- A problem with a settings file. -/
inductive Warning where
  | notFound (path : String)
  | tooLarge (path : String) (size : Nat)
  | unreadable (path : String) (fault : FileFault)
  | notText (path : String)
  | notSettings (path : String)
deriving DecidableEq

/-- The largest settings file that is read, in bytes. -/
def largestFile : Nat := 1048576

/-- The wording of a warning. -/
def Warning.message : Warning → String
  | .notFound path => "Config file not found: " ++ path
  | .tooLarge path size =>
    "Refusing to read " ++ path ++ s!": file too large ({size} bytes, max {largestFile})"
  | .unreadable path fault => "Failed to read " ++ path ++ ": " ++ fault.message
  | .notText path => "Failed to read " ++ path ++ ": stream did not contain valid UTF-8"
  | .notSettings path => "Failed to parse " ++ path

/-- The limits that a settings file with a given content gives. -/
def ofContent (path : String) (content : ByteArray) : Except Warning Limits :=
  if largestFile < content.size then .error (.tooLarge path content.size)
  else match String.fromUTF8? content with
    | none => .error (.notText path)
    | some s =>
      match Limits.ofSettings? s with
      | some limits => .ok limits
      | none => .error (.notSettings path)

/-- The limits that the settings file at a path gives; the defaults when it is missing and need
not exist. -/
def ofFile (files : Files) (path : String) (required : Bool) : Except Warning Limits :=
  match files.find path with
  | .ok (.file content) => ofContent path content
  | .ok .directory => .error (.unreadable path .isDirectory)
  | .error _ => if required then .error (.notFound path) else .ok {}

/-- The path of the settings file below the directory for settings, which is the one given for it
if that is an absolute path, and else a directory of the user's own. -/
def usualPath (configHome home : Option String) : Option String :=
  match configHome.filter fun dir => dir.startsWith "/" with
  | some dir => some (dir ++ "/sheetcalc/config.toml")
  | none => home.map fun dir => dir ++ "/.config/sheetcalc/config.toml"

/-- The limits in force, and the warnings to give: those of the file that was asked for, else of
the usual one, if there is a place for it. -/
def load (files : Files) (asked usual : Option String) : Limits × List Warning :=
  let result := match asked, usual with
    | some path, _ => ofFile files path true
    | none, some path => ofFile files path false
    | none, none => .ok {}
  match result with
  | .ok limits => (limits, [])
  | .error warning => ({}, [warning])

end Settings

end Spreadsheet
