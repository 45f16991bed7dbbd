/-!
# TOML values
-/

namespace Spreadsheet

/-- A TOML value. Floating-point numbers and dates keep the characters they were written with. -/
inductive Toml where
  | string (content : String)
  | integer (n : Int)
  | float (written : String)
  | bool (b : Bool)
  | date (written : String)
  | array (items : List Toml)
  | table (entries : List (String × Toml))

end Spreadsheet
