import Spreadsheet.Formula.Shift
import Spreadsheet.Sheet.Basic

/-!
# Copying, cutting and pasting

Capturing takes the stored cells among those asked for, each once. Pasting puts the anchor on the
target and every other captured cell at the same distance from it; cells that would leave the grid
are dropped. Cut cells can be pasted once.
-/

namespace Spreadsheet

namespace Sheet

/-- The stored cells among some addresses, each once, in the order asked for. -/
def capture (s : Sheet) (addresses : List Address) : List (Address × Cell) :=
  addresses.eraseDups.filterMap fun a => (s.cell? a).map fun c => (a, c)

/-- Puts copies of the stored cells among some addresses on the clipboard. -/
def copy (s : Sheet) (addresses : List Address) : Sheet :=
  { s with clipboard := some ⟨.copy, s.capture addresses⟩ }

/-- Moves the stored cells among some addresses to the clipboard. -/
def cut (s : Sheet) (addresses : List Address) : Sheet :=
  addresses.foldl remove { s with clipboard := some ⟨.cut, s.capture addresses⟩ }

/-- The distance from an address to another one. -/
def distance (origin target : Address) : Formula.Shift where
  columns := target.column.val - origin.column.val
  rows := target.row.val - origin.row.val

/-- A captured cell at its new place, its formula moved along when `adjust` is set. -/
def placed? (shift : Formula.Shift) (adjust : Bool) (a : Address) (c : Cell) :
    Option (Address × Cell) :=
  (a.offset? shift.columns shift.rows).map fun target =>
    (target, if adjust then { c with formula := c.formula.map (Formula.shifted shift) } else c)

/-- Stores cells one after another. -/
def putAll (s : Sheet) (cells : List (Address × Cell)) : Sheet :=
  cells.foldl (fun s (a, c) => s.put a c) s

/-- Evaluates the formulas at some addresses again, one after another. -/
def resubmitAll (s : Sheet) (addresses : List Address) : Sheet :=
  addresses.foldl (fun s a => (s.resubmit a).1) s

/-- The sheet after captured cells are pasted, and how many are. Adjusted formulas are evaluated
once all cells are in place. -/
def pasteCells (s : Sheet) (anchor target : Address) (adjust : Bool)
    (cells : List (Address × Cell)) : Sheet × Nat :=
  let placed := cells.filterMap fun (a, c) => placed? (distance anchor target) adjust a c
  let formulas := (placed.filter fun (_, c) => adjust && c.formula.isSome).map (·.1)
  ((s.putAll placed).resubmitAll formulas, placed.length)

/-- Pastes the clipboard with its anchor on the target; nothing when it holds no cell. -/
def paste? (s : Sheet) (target : Address) (adjust : Bool) : Option (Sheet × Nat) :=
  match s.clipboard with
  | some ⟨kind, (anchor, cell) :: others⟩ =>
    let (pasted, count) := s.pasteCells anchor target adjust ((anchor, cell) :: others)
    match kind with
    | .copy => some (pasted, count)
    | .cut => some ({ pasted with clipboard := none }, count)
  | _ => none

end Sheet

end Spreadsheet
