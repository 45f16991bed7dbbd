import Spreadsheet.Formula.Evaluation
import Spreadsheet.Sheet.Cell
import Std.Data.ExtTreeMap

/-!
# Sheets

A sheet stores cells by address, the cells on its clipboard, and the limits of its evaluations.
A formula is evaluated once, when it is committed, against the sheet as it was before; afterwards
the cell keeps the text it showed then until the formula is submitted again.
-/

namespace Spreadsheet

open Std (ExtTreeMap)

/-- Whether captured cells were left in place. -/
inductive Clipboard.Kind where
  | copy
  | cut
deriving DecidableEq

/-- Captured cells, in the order in which they were asked for; the first one is the anchor. -/
structure Clipboard where
  kind : Clipboard.Kind
  cells : List (Address × Cell)
deriving DecidableEq

/-- A sheet. -/
structure Sheet where
  cells : ExtTreeMap Address Cell := ∅
  clipboard : Option Clipboard := none
  limits : Limits := {}

namespace Sheet

/-! ### Looking -/

/-- The cell at an address. -/
def cell? (s : Sheet) (a : Address) : Option Cell :=
  s.cells[a]?

/-- The text that an address shows; a missing cell shows nothing. -/
def display (s : Sheet) (a : Address) : String :=
  ((s.cell? a).map Cell.value).getD ""

/-- The formula at an address. -/
def formula? (s : Sheet) (a : Address) : Option String :=
  (s.cell? a).bind Cell.formula

/-- The texts that formulas see. -/
def snapshot (s : Sheet) : Snapshot :=
  fun a => (s.cell? a).map Cell.value

/-- The stored cells, row by row. -/
def toList (s : Sheet) : List (Address × Cell) :=
  s.cells.toList

/-- The least column and row that bound all stored cells. -/
def extent? (s : Sheet) : Option (Nat × Nat) :=
  s.toList.foldl (fun bound (a, _) =>
    let (column, row) := bound.getD (0, 0)
    some (max column a.column.val, max row a.row.val)) none

/-- The value of a formula on the sheet. -/
def evaluate (s : Sheet) (formula : String) : Except Formula.Error Value :=
  Formula.evaluate s.limits s.snapshot formula

/-! ### Changing -/

/-- The sheet with one cell stored. -/
def put (s : Sheet) (a : Address) (c : Cell) : Sheet :=
  { s with cells := s.cells.insert a c }

/-- The sheet with one cell removed. -/
def remove (s : Sheet) (a : Address) : Sheet :=
  { s with cells := s.cells.erase a }

/-- An input that is stored as a formula. -/
def isFormula (input : String) : Bool :=
  input.toList.head? == some '='

/-- Commits an input at an address. A formula is evaluated on the sheet as it is and stored with
the text of its outcome; any other input becomes the text itself. The style stays. -/
def commit (s : Sheet) (a : Address) (input : String) :
    Sheet × Option (Except Formula.Error Value) :=
  let style := (s.cell? a).bind Cell.style
  if isFormula input then
    let outcome := s.evaluate input
    (s.put a ⟨Formula.display outcome, some input, style⟩, some outcome)
  else (s.put a ⟨input, none, style⟩, none)

/-- Evaluates the formula at an address again. -/
def resubmit (s : Sheet) (a : Address) : Sheet × Option (Except Formula.Error Value) :=
  match s.cell? a with
  | some ⟨_, some formula, style⟩ =>
    let outcome := s.evaluate formula
    (s.put a ⟨Formula.display outcome, some formula, style⟩, some outcome)
  | _ => (s, none)

/-- Changes the style at an address; a missing cell is stored first, without a text. -/
def restyle (s : Sheet) (a : Address) (p : StylePatch) : Sheet :=
  s.put a (((s.cell? a).getD {}).restyle p)

end Sheet

end Spreadsheet
