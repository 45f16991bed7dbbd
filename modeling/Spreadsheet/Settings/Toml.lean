import Spreadsheet.Formula.Limits
import Spreadsheet.Toml.Reading

/-!
# Settings given as TOML

A settings file holds the limits of evaluations under `eval`, as a table by name or as an array in
order. It holds nothing else.
-/

namespace Spreadsheet

namespace Limits

/-- A TOML value as a setting. -/
def Setting.ofToml : Toml → Setting
  | .integer n => if 0 ≤ n then .number n.toNat else .other
  | .bool b => .flag b
  | _ => .other

/-- The limits that a TOML value gives; items of an array beyond the settings are passed over. -/
def ofToml? : Toml → Option Limits
  | .table entries => ofTable? (entries.map fun (name, v) => (name, Setting.ofToml v))
  | .array items => ofList? ((items.take names.length).map Setting.ofToml)
  | _ => none

/-- The limits that a settings file gives. -/
def ofSettings? (s : String) : Option Limits := do
  match ← Toml.ofText? s with
  | [] => return {}
  | [("eval", v)] => ofToml? v
  | _ => none

end Limits

end Spreadsheet
