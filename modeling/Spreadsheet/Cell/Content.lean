import Spreadsheet.Cell.Number
import Spreadsheet.Grid.Address

/-!
# What formulas see of a cell

A formula sees a cell as blank, as a number or as raw text. A missing cell is blank.
-/

namespace Spreadsheet

/-- The texts of cells; a cell without a text is missing. -/
abbrev Snapshot := Address → Option String

/-- What a formula sees of a cell. -/
inductive Content where
  | blank
  | number (value : Number)
  | text (raw : String)
deriving DecidableEq

namespace Content

/-- The content of a cell with a given text. -/
def ofText (s : String) : Content :=
  if Text.isBlank s then .blank
  else match Number.ofCellText? s with
    | some value => .number value
    | none => .text s

/-- The content of a cell that may be missing. -/
def ofCell : Option String → Content
  | none => .blank
  | some s => ofText s

/-- The number of a numeric cell. -/
def number? : Content → Option Number
  | .number value => some value
  | _ => none

end Content

/-- What a formula sees at an address. -/
def Snapshot.content (cells : Snapshot) (a : Address) : Content :=
  Content.ofCell (cells a)

/-! ### Values -/

/-- A value of a formula. -/
inductive Value where
  | number (value : Number)
  | text (content : String)
deriving DecidableEq

/-- The text that shows a value. -/
def Value.display : Value → String
  | .number value => value.display
  | .text content => content

/-- The value of a cell as an operand: a blank cell counts as zero. -/
def Content.value : Content → Value
  | .blank => .number .zero
  | .number value => .number value
  | .text raw => .text raw

/-- The text of a cell as a part of a longer text: a blank cell adds nothing. -/
def Content.joined : Content → String
  | .blank => ""
  | content => content.value.display

end Spreadsheet
