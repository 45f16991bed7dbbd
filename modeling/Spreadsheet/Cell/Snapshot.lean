import Spreadsheet.Cell.Content
import Std.Data.HashMap

/-!
# Snapshots from lists of cells

Lists of cells are looked up through a hash table keyed by address, a tree ordered by address, or
a hash table keyed by text that is asked for the canonical text of an address. A later cell
replaces an earlier one at the same key.
-/

namespace Spreadsheet

namespace Snapshot

/-- The cells of a list, hashed by address. -/
def hashed (cells : List (Address × String)) : Snapshot :=
  let table := Std.HashMap.ofList cells
  fun a => table[a]?

/-- The cells of a list, in a tree ordered row by row. -/
def ordered (cells : List (Address × String)) : Snapshot :=
  let tree := Std.TreeMap.ofList cells
  fun a => tree[a]?

/-- The cells of a list, hashed by text; a key that is no address is never asked for. -/
def named (cells : List (String × String)) : Snapshot :=
  let table := Std.HashMap.ofList cells
  fun a => table[a.text]?

end Snapshot

end Spreadsheet
