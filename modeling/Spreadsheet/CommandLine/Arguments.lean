import Spreadsheet.Grid.Address
import Spreadsheet.Text.Blank
import Spreadsheet.Text.Quoted

/-!
# Command-line arguments

Options may come in any order. Those with a value take the next argument, whatever it looks like;
of an option that is meant once, the last occurrence counts.
-/

namespace Spreadsheet

namespace CommandLine

/-- What the arguments ask for. -/
structure Arguments where
  csvFile : Option String := none
  commits : List (Address × String) := []
  commands : List String := []
  outputFile : Option String := none
  settingsFile : Option String := none
  help : Bool := false
deriving DecidableEq

/-- Why arguments cannot be read. -/
inductive ArgumentError where
  | unknownOption (option : String)
  | missingValue (option : String)
  | noAssignment (value : String)
  | badAddress (value : String) (cause : AddressError)
deriving DecidableEq

/-- The wording of an argument error. -/
def ArgumentError.message : ArgumentError → String
  | .unknownOption option => "Unknown option: " ++ option
  | .missingValue option => option ++ " requires a value"
  | .noAssignment value => "--set expects ADDR=INPUT, got " ++ Text.quoted value
  | .badAddress value cause => "--set " ++ Text.quoted value ++ ": " ++ cause.message

/-- An option that takes a value. -/
inductive ValueOption where
  | csv
  | commit
  | command
  | output
  | settings
deriving DecidableEq

/-- The option that takes a value and is spelled like this, if there is one. -/
def ValueOption.ofText? : String → Option ValueOption
  | "--csv" => some .csv
  | "-s" => some .commit
  | "--set" => some .commit
  | "-c" => some .command
  | "--command" => some .command
  | "-o" => some .output
  | "--output" => some .output
  | "--config" => some .settings
  | _ => none

/-- An option that asks for help. -/
def isHelp (option : String) : Bool :=
  option == "-h" || option == "--help"

/-- The address and the input of an assignment, split at the first equals sign. -/
def assignment (value : String) : Except ArgumentError (Address × String) :=
  let cs := value.toList
  match cs.dropWhile (· ≠ '=') with
  | [] => .error (.noAssignment value)
  | _ :: input =>
    match Address.ofText (Text.trim (String.ofList (cs.takeWhile (· ≠ '=')))) with
    | .ok a => .ok (a, String.ofList input)
    | .error cause => .error (.badAddress value cause)

namespace Arguments

/-- The arguments with one more option and its value. -/
def add (args : Arguments) (option : ValueOption) (value : String) :
    Except ArgumentError Arguments :=
  match option with
  | .csv => .ok { args with csvFile := some value }
  | .commit => do return { args with commits := args.commits ++ [← assignment value] }
  | .command => .ok { args with commands := args.commands ++ [value] }
  | .output => .ok { args with outputFile := some value }
  | .settings => .ok { args with settingsFile := some value }

/-- Reads the words of a command line after what is read already. -/
def readAfter (args : Arguments) : List String → Except ArgumentError Arguments
  | [] => .ok args
  | word :: words =>
    if isHelp word then readAfter { args with help := true } words
    else match ValueOption.ofText? word with
      | none => .error (.unknownOption word)
      | some option =>
        match words with
        | [] => .error (.missingValue word)
        | value :: words =>
          match args.add option value with
          | .ok args => readAfter args words
          | .error e => .error e

/-- What the words of a command line ask for. -/
def read (words : List String) : Except ArgumentError Arguments :=
  readAfter {} words

end Arguments

/-- The lines that explain the options. -/
def usage : List String := [
  "Usage: sheetcalc [OPTIONS]",
  "",
  "Options:",
  "  --csv <FILE>              Load cells from a CSV file",
  "  -s, --set <ADDR=INPUT>    Commit a cell, e.g. A1=5 or B1==SUM(A1:A3) (can be repeated)",
  "  -c, --command <FORMULA>   Evaluate a formula and print the result (can be repeated)",
  "  -o, --output <FILE>       Export the sheet to CSV",
  "  --config <FILE>           Load settings from this TOML file",
  "  -h, --help                Print help",
  "",
  "Set SHEETCALC_LOG (e.g. SHEETCALC_LOG=debug) to control logging on stderr."]

end CommandLine

end Spreadsheet
