/-!
# Intervals of code points

A class of characters is given by a table of closed intervals of code points.
-/

namespace Spreadsheet.Text

/-- A closed interval of code points, first and last. -/
abbrev CodeRange := Nat × Nat

/-- The character lies in one of the intervals. -/
def CodeRange.covers (table : List CodeRange) (c : Char) : Bool :=
  table.any fun (first, last) => first ≤ c.toNat && c.toNat ≤ last

end Spreadsheet.Text
