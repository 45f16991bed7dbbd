import Spreadsheet.Formula.Limits
import Spreadsheet.Json.Basic

/-!
# Limits given as JSON

An object gives the settings by name, the last of a repeated name counting, and an array gives them
in order. Numbers are natural numbers of at most 64 bits.
-/

namespace Spreadsheet

namespace Limits

/-- The largest number that a setting can have. -/
def largestSetting : Nat := 18446744073709551615

/-- A JSON value as a setting. -/
def Setting.ofJson (value : Json) : Setting :=
  match value with
  | .bool b => .flag b
  | value =>
    match value.nat? with
    | some n => if n ≤ largestSetting then .number n else .other
    | none => .other

/-- The limits that a JSON value gives. -/
def ofJson? (value : Json) : Option Limits :=
  match value with
  | .array items => ofList? (items.map Setting.ofJson)
  | .object members =>
    let given := members.map (·.1)
    if given.all names.contains then
      ofTable? ((names.filter given.contains).filterMap fun name =>
        (value.member? name).map fun v => (name, Setting.ofJson v))
    else none
  | _ => none

end Limits

end Spreadsheet
