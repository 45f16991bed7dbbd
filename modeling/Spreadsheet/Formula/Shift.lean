import Spreadsheet.Grid.Address
import Spreadsheet.Text.Word

/-!
# Shifting the references of a formula

When a formula moves, its cell references move along. The text is taken apart into quoted literals,
which stay as they are, and words, the longest runs of word characters between them. A word that is
an address moves with the formula, unless an argument list follows it; one that would leave the
grid becomes an error mark. A doubled quote closes a literal and opens the next one, so it needs
no rule of its own.
-/

namespace Spreadsheet

namespace Formula

/-- The text of a reference that left the grid. -/
def lostReference : String := "#REF!"

/-- A distance to move by, in columns and rows. -/
structure Shift where
  columns : Int
  rows : Int
deriving DecidableEq

namespace Shift

variable (shift : Shift)

/-- A word after the move. -/
def word (cs : List Char) : List Char :=
  match Address.read? cs with
  | none => cs
  | some a =>
    match a.offset? shift.columns shift.rows with
    | some moved => moved.chars
    | none => lostReference.toList

/-- A formula text taken apart up to some character. -/
structure Scan where
  /-- What is done, latest character first. -/
  done : List Char
  /-- The word under way outside literals, latest character first. -/
  word : List Char
  inLiteral : Bool

/-- The done part with the word under way added to it, moved unless an argument list follows. -/
def settle (s : Scan) (isName : Bool) : List Char :=
  if isName then s.word ++ s.done
  else (shift.word s.word.reverse).reverse ++ s.done

/-- Takes one more character. -/
def step (s : Scan) (c : Char) : Scan :=
  if s.inLiteral then { s with done := c :: s.done, inLiteral := c ≠ '"' }
  else if Text.isWordChar c then { s with word := c :: s.word }
  else ⟨c :: shift.settle s (c = '('), [], c = '"'⟩

/-- The characters of a formula after the move. -/
def apply (formula : List Char) : List Char :=
  (shift.settle (formula.foldl shift.step ⟨[], [], false⟩) false).reverse

end Shift

/-- A formula text after a move; without a distance it stays as it is. -/
def shifted (shift : Shift) (formula : String) : String :=
  if shift.columns = 0 ∧ shift.rows = 0 then formula
  else String.ofList (shift.apply formula.toList)

end Formula

end Spreadsheet
