/-!
# Limits of an evaluation

Limits can be given as a table of settings by name or as a list of settings in a fixed order.
What is not given keeps its default; an unknown name, a setting of the wrong kind or a list that
is too long is refused.
-/

namespace Spreadsheet

/-- The limits that an evaluation keeps, and whether calls may be nested. -/
structure Limits where
  /-- Characters in a formula, the leading `=` included. -/
  maxLength : Nat := 8192
  /-- Parentheses, signs and calls around one another. -/
  maxDepth : Nat := 64
  /-- Cells that one range argument covers. -/
  maxRangeCells : Nat := 1000000
  /-- A call may stand inside the arguments of another one. -/
  nestedCalls : Bool := false
deriving DecidableEq

namespace Limits

/-- A setting of a single limit, as far as its kind matters. -/
inductive Setting where
  | number (n : Nat)
  | flag (b : Bool)
  | other
deriving DecidableEq

/-- The names of the settings, in the order of a list. -/
def names : List String :=
  ["max_formula_len", "max_depth", "max_range_cells", "nested_calls"]

/-- The limits with one setting changed. -/
def set? (limits : Limits) (name : String) (setting : Setting) : Option Limits :=
  match name, setting with
  | "max_formula_len", .number n => some { limits with maxLength := n }
  | "max_depth", .number n => some { limits with maxDepth := n }
  | "max_range_cells", .number n => some { limits with maxRangeCells := n }
  | "nested_calls", .flag b => some { limits with nestedCalls := b }
  | _, _ => none

/-- The limits that a table of settings gives. -/
def ofTable? (settings : List (String × Setting)) : Option Limits :=
  settings.foldlM (fun limits (name, setting) => limits.set? name setting) {}

/-- The limits that a list of settings gives. -/
def ofList? (settings : List Setting) : Option Limits :=
  if settings.length ≤ names.length then ofTable? (names.zip settings) else none

end Limits

end Spreadsheet
