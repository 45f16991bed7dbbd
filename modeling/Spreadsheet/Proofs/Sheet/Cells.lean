import Mathlib.Tactic.Common
import Spreadsheet.Proofs.Grid.AddressText
import Spreadsheet.Sheet.Clipboard
import Spreadsheet.Sheet.Table

/-!
# Cells, extents and tables

What a sheet holds after texts were stored in it (`Sheet.cell?_putTexts`), the extent as the least
bound of all stored cells (`Sheet.extent?_cases`), and the table as the texts that the addresses
up to the extent show (`Sheet.exists_display_of_table`, `Sheet.getElem?_table`).
-/

namespace Spreadsheet

namespace Sheet

/-! ## Stored cells -/

/-- A cell that was stored is found again, and the others are as before. -/
lemma cell?_put (s : Sheet) (a b : Address) (c : Cell) :
    (s.put a c).cell? b = if a = b then some c else s.cell? b := by
  rw [cell?, put, Std.ExtTreeMap.getElem?_insert]
  simp only [Std.LawfulEqOrd.compare_eq_iff_eq]
  rfl

/-- Nothing is left at an address whose cell was removed, and all other cells stay. -/
lemma cell?_remove (s : Sheet) (a b : Address) :
    (s.remove a).cell? b = if a = b then none else s.cell? b := by
  rw [cell?, remove, Std.ExtTreeMap.getElem?_erase]
  simp only [Std.LawfulEqOrd.compare_eq_iff_eq]
  rfl

/-- A stored cell shows its value, and all other cells show what they did. -/
lemma display_put (s : Sheet) (a b : Address) (c : Cell) :
    (s.put a c).display b = if a = b then c.value else s.display b := by
  unfold display
  rw [cell?_put]
  split <;> rfl

/-- A stored cell has its own formula, and all other cells have theirs. -/
lemma formula?_put (s : Sheet) (a b : Address) (c : Cell) :
    (s.put a c).formula? b = if a = b then c.formula else s.formula? b := by
  unfold formula?
  rw [cell?_put]
  split <;> rfl

/-- A removed cell shows nothing, and all other cells show what they did. -/
lemma display_remove (s : Sheet) (a b : Address) :
    (s.remove a).display b = if a = b then "" else s.display b := by
  unfold display
  rw [cell?_remove]
  split <;> rfl

/-- A removed cell has no formula, and all other cells have theirs. -/
lemma formula?_remove (s : Sheet) (a b : Address) :
    (s.remove a).formula? b = if a = b then none else s.formula? b := by
  unfold formula?
  rw [cell?_remove]
  split <;> rfl

/-- Sheets with the same cells, clipboard and limits are the same. -/
lemma eq_of_cell?_eq {s t : Sheet} (hcell : ∀ a, s.cell? a = t.cell? a)
    (hclipboard : s.clipboard = t.clipboard) (hlimits : s.limits = t.limits) : s = t := by
  obtain ⟨cells, clipboard, limits⟩ := s
  obtain ⟨cells', clipboard', limits'⟩ := t
  obtain rfl : clipboard = clipboard' := hclipboard
  obtain rfl : limits = limits' := hlimits
  have hcells : cells = cells' := Std.ExtTreeMap.ext_getElem? hcell
  rw [hcells]

/-- The cells of a sheet are those that are found at their addresses. -/
lemma mem_toList_iff {s : Sheet} {a : Address} {c : Cell} :
    (a, c) ∈ s.toList ↔ s.cell? a = some c :=
  Std.ExtTreeMap.mem_toList_iff_getElem?_eq_some

/-- An address where cells were stored holds one of them, and any other address is as before. -/
lemma cell?_putAll_cases (s : Sheet) (cells : List (Address × Cell)) (a : Address) :
    (∃ c, (a, c) ∈ cells ∧ (s.putAll cells).cell? a = some c) ∨
      a ∉ cells.map Prod.fst ∧ (s.putAll cells).cell? a = s.cell? a := by
  induction cells generalizing s with
  | nil => exact .inr ⟨List.not_mem_nil, rfl⟩
  | cons first cells ih =>
    obtain ⟨b, c⟩ := first
    have hput : s.putAll ((b, c) :: cells) = (s.put b c).putAll cells := rfl
    rw [hput]
    rcases ih (s.put b c) with ⟨c', hmem, hcell⟩ | ⟨hnone, hcell⟩
    · exact .inl ⟨c', List.mem_cons_of_mem _ hmem, hcell⟩
    · rw [hcell, cell?_put]
      split
      case isTrue h =>
        subst h
        exact .inl ⟨c, List.mem_cons_self, rfl⟩
      case isFalse h =>
        refine .inr ⟨?_, rfl⟩
        rw [List.map_cons, List.mem_cons, not_or]
        exact ⟨Ne.symm h, hnone⟩

/-- Storing texts is storing plain cells, so what is known of the latter holds of the former. -/
lemma putTexts_eq_putAll (s : Sheet) (cells : List (Address × String)) :
    s.putTexts cells = s.putAll (cells.map fun (a, value) => (a, .plain value)) := by
  rw [putAll, List.foldl_map]
  rfl

/-- An address where texts were stored holds one of them, and nothing else; any other address is as
before. -/
lemma cell?_putTexts (s : Sheet) (cells : List (Address × String)) (a : Address) :
    (∃ value, (a, value) ∈ cells ∧ (s.putTexts cells).cell? a = some (.plain value)) ∨
      (∀ value, (a, value) ∉ cells) ∧ (s.putTexts cells).cell? a = s.cell? a := by
  rw [putTexts_eq_putAll]
  rcases s.cell?_putAll_cases (cells.map fun (a, value) => (a, .plain value)) a with
    ⟨c, hmem, hcell⟩ | ⟨hnone, hcell⟩
  · obtain ⟨⟨b, value⟩, hvalue, heq⟩ := List.mem_map.mp hmem
    cases heq
    exact .inl ⟨value, hvalue, hcell⟩
  · refine .inr ⟨fun value hmem => hnone ?_, hcell⟩
    rw [List.map_map]
    exact List.mem_map_of_mem hmem

/-- An address that shows a text other than the empty one holds a cell. -/
lemma exists_cell_of_display_ne {s : Sheet} {a : Address} (h : s.display a ≠ "") :
    ∃ c, s.cell? a = some c := by
  cases hcell : s.cell? a with
  | none => exact absurd (by rw [display, hcell]; rfl) h
  | some c => exact ⟨c, rfl⟩

/-! ## Extents -/

/-- A column and a row bound some addresses and are reached by them. -/
structure Bounds (addresses : List Address) (columns rows : Nat) : Prop where
  le : ∀ a ∈ addresses, a.column.val ≤ columns ∧ a.row.val ≤ rows
  column_mem : ∃ a ∈ addresses, a.column.val = columns
  row_mem : ∃ a ∈ addresses, a.row.val = rows

/-- The bounds after one more address. -/
lemma Bounds.concat {addresses : List Address} {columns rows : Nat}
    (h : Bounds addresses columns rows) (a : Address) :
    Bounds (addresses ++ [a]) (max columns a.column.val) (max rows a.row.val) where
  le := by
    intro b hb
    rcases List.mem_append.mp hb with hb | hb
    · have hle := h.le b hb
      omega
    · rw [List.mem_singleton.mp hb]
      omega
  column_mem := by
    obtain ⟨b, hb, hcolumn⟩ := h.column_mem
    rcases Nat.le_total columns a.column.val with hle | hle
    · exact ⟨a, by simp, (Nat.max_eq_right hle).symm⟩
    · exact ⟨b, List.mem_append_left _ hb, by rw [hcolumn, Nat.max_eq_left hle]⟩
  row_mem := by
    obtain ⟨b, hb, hrow⟩ := h.row_mem
    rcases Nat.le_total rows a.row.val with hle | hle
    · exact ⟨a, by simp, (Nat.max_eq_right hle).symm⟩
    · exact ⟨b, List.mem_append_left _ hb, by rw [hrow, Nat.max_eq_left hle]⟩

/-- A single address is bounded by its own column and row. -/
lemma bounds_singleton (a : Address) : Bounds [a] a.column.val a.row.val where
  le := by
    intro b hb
    rw [List.mem_singleton.mp hb]
    exact ⟨Nat.le_refl _, Nat.le_refl _⟩
  column_mem := ⟨a, List.mem_singleton_self a, rfl⟩
  row_mem := ⟨a, List.mem_singleton_self a, rfl⟩

/-- The bounds widened to one more address. -/
def widen (bound : Option (Nat × Nat)) (a : Address) : Option (Nat × Nat) :=
  let (column, row) := bound.getD (0, 0)
  some (max column a.column.val, max row a.row.val)

/-- The extent of a sheet is found by widening bounds to one address after the other. -/
lemma extent?_eq_foldl (s : Sheet) : s.extent? = (s.toList.map Prod.fst).foldl widen none := by
  rw [List.foldl_map]
  rfl

/-- Widening the bounds of some addresses by more of them gives the bounds of all together. -/
lemma Bounds.foldl_widen {before : List Address} {columns rows : Nat}
    (h : Bounds before columns rows) (addresses : List Address) : ∃ columns' rows',
      addresses.foldl widen (some (columns, rows)) = some (columns', rows') ∧
        Bounds (before ++ addresses) columns' rows' := by
  induction addresses generalizing before columns rows with
  | nil => exact ⟨columns, rows, rfl, by simpa using h⟩
  | cons a addresses ih =>
    obtain ⟨columns', rows', hfold, hbounds⟩ := ih (h.concat a)
    exact ⟨columns', rows', hfold, by simpa using hbounds⟩

/-- Either there are no cells and no extent, or the extent bounds the stored cells and is reached by
them. -/
lemma extent?_cases (s : Sheet) : (s.extent? = none ∧ ∀ a, s.cell? a = none) ∨
    ∃ columns rows, s.extent? = some (columns, rows) ∧
      Bounds (s.toList.map Prod.fst) columns rows := by
  rw [extent?_eq_foldl]
  cases hcells : s.toList with
  | nil =>
    left
    refine ⟨rfl, fun a => ?_⟩
    cases hcell : s.cell? a with
    | none => rfl
    | some c => exact absurd (mem_toList_iff.mpr hcell) (by simp [hcells])
  | cons cell cells =>
    right
    obtain ⟨columns, rows, hfold, hbounds⟩ :=
      (bounds_singleton cell.1).foldl_widen (cells.map Prod.fst)
    refine ⟨columns, rows, ?_, hbounds⟩
    rw [List.map_cons, List.foldl_cons, ← hfold, widen]
    simp

/-! ## Tables -/

/-- The texts that a row shows in the first columns. -/
def rowTexts (s : Sheet) (columns row : Nat) : List String :=
  (List.range' 1 columns).map fun column =>
    ((Address.ofNumbers? column row).map s.display).getD ""

/-- Either there are no cells and the table is empty, or the table has the rows and columns up to
some index each, and all cells lie there. -/
lemma table_cases (s : Sheet) : (s.table = [] ∧ ∀ a, s.cell? a = none) ∨
    ∃ columns rows : Index, s.table = (List.range' 1 rows.val).map (s.rowTexts columns.val) ∧
      ∀ a c, s.cell? a = some c → a.column.val ≤ columns.val ∧ a.row.val ≤ rows.val := by
  rcases s.extent?_cases with ⟨hextent, hnone⟩ | ⟨columns, rows, hextent, hbounds⟩
  · exact .inl ⟨by rw [table, hextent], hnone⟩
  · right
    obtain ⟨b, -, rfl⟩ := hbounds.column_mem
    obtain ⟨b', -, rfl⟩ := hbounds.row_mem
    refine ⟨b.column, b'.row, by rw [table, hextent]; rfl, fun a c hcell => ?_⟩
    exact hbounds.le a (List.mem_map_of_mem (mem_toList_iff.mpr hcell))

/-- The elements computed from the numbers up to a bound. -/
lemma getElem?_map_range'_eq_some_iff {α : Type} {f : Nat → α} {n i : Nat} {x : α} :
    ((List.range' 1 n).map f)[i]? = some x ↔ i < n ∧ f (i + 1) = x := by
  rw [List.getElem?_map, Option.map_eq_some_iff]
  constructor
  · rintro ⟨k, hk, rfl⟩
    obtain ⟨hi, rfl⟩ := List.getElem?_eq_some_iff.mp hk
    rw [List.length_range'] at hi
    refine ⟨hi, ?_⟩
    rw [List.getElem_range', Nat.one_mul, Nat.add_comm]
  · rintro ⟨hi, rfl⟩
    exact ⟨i + 1, by rw [List.getElem?_range' hi, Nat.one_mul, Nat.add_comm], rfl⟩

/-- Every row of the table has a field, since the table has a column. -/
lemma ne_nil_of_mem_table {s : Sheet} {fields : List String} (h : fields ∈ s.table) :
    fields ≠ [] := by
  rcases s.table_cases with ⟨htable, -⟩ | ⟨columns, rows, htable, -⟩
  · rw [htable] at h
    cases h
  · rw [htable] at h
    obtain ⟨row, -, rfl⟩ := List.mem_map.mp h
    have hpos := columns.pos
    apply List.ne_nil_of_length_pos
    rwa [rowTexts, List.length_map, List.length_range']

/-- Whatever stands in the table is shown at the address with that row and column. -/
lemma exists_display_of_table {s : Sheet} {i j : Nat} {fields : List String} {text : String}
    (hi : s.table[i]? = some fields) (hj : fields[j]? = some text) :
    ∃ a : Address, a.row.val = i + 1 ∧ a.column.val = j + 1 ∧ text = s.display a := by
  rcases s.table_cases with ⟨htable, -⟩ | ⟨columns, rows, htable, -⟩
  · rw [htable] at hi
    cases hi
  · rw [htable] at hi
    obtain ⟨hrow, rfl⟩ := getElem?_map_range'_eq_some_iff.mp hi
    obtain ⟨hcolumn, rfl⟩ := getElem?_map_range'_eq_some_iff.mp hj
    have hrows := rows.le_side
    have hcolumns := columns.le_side
    have ha : Address.ofNumbers? (j + 1) (i + 1) =
        some ⟨⟨i + 1, by omega, by omega⟩, ⟨j + 1, by omega, by omega⟩⟩ :=
      Address.ofNumbers?_eq_some_iff.mpr ⟨rfl, rfl⟩
    exact ⟨_, rfl, rfl, by rw [ha]; rfl⟩

/-- A text that is shown stands in the table, in the row and column of its address. -/
lemma getElem?_table {s : Sheet} {a : Address} (h : s.display a ≠ "") : ∃ fields,
    s.table[a.row.val - 1]? = some fields ∧ fields[a.column.val - 1]? = some (s.display a) := by
  obtain ⟨c, hcell⟩ := exists_cell_of_display_ne h
  rcases s.table_cases with ⟨-, hnone⟩ | ⟨columns, rows, htable, hle⟩
  · rw [hnone a] at hcell
    cases hcell
  · have hbound := hle a c hcell
    have hrow := a.row.pos
    have hcolumn := a.column.pos
    have ha : Address.ofNumbers? (a.column.val - 1 + 1) (a.row.val - 1 + 1) = some a :=
      Address.ofNumbers?_eq_some_iff.mpr ⟨by omega, by omega⟩
    refine ⟨_, by rw [htable]; exact getElem?_map_range'_eq_some_iff.mpr ⟨by omega, rfl⟩, ?_⟩
    exact getElem?_map_range'_eq_some_iff.mpr ⟨by omega, by rw [ha]; rfl⟩

end Sheet

end Spreadsheet
