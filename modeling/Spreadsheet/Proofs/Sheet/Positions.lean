import Mathlib.Algebra.BigOperators.Group.Finset.Sigma
import Mathlib.Algebra.GroupWithZero.Nat
import Mathlib.Algebra.Order.BigOperators.Group.List
import Mathlib.Algebra.Order.Group.Nat
import Spreadsheet.Proofs.Sheet.RoundTrip

/-!
# Where exported texts come back

The reader of an exported sheet counts lines where the writer counted rows, so that a text comes
back in its own column, further down by the line feeds in all the rows above its own
(`Sheet.Lands`).  The main result, `importCsv_exportCsv_lands`, says that this is all that happens
to the texts apart from trimming, as long as the grid has the rows they land in: every text lands,
nothing else does, and no two texts land at one address.

The line feeds above a row are counted in the stored cells (`lineFeedsAbove`).  They are the line
feeds in the records above (`feedsAbove_table`), since the table shows every stored cell once.
-/

namespace Spreadsheet

namespace Csv

/-! ## Distinct addresses -/

/-- The rows of written records increase strictly, each by one and by the line feeds it contains. -/
lemma pairwise_rowsFrom (feeds : Nat) (table : List (List String)) :
    (rowsFrom feeds table).Pairwise fun p q => p.1 < q.1 := by
  induction table generalizing feeds with
  | nil => exact List.Pairwise.nil
  | cons fields table ih =>
    refine List.Pairwise.cons ?_ (ih _)
    intro q hq
    obtain ⟨row, fields'⟩ := q
    obtain ⟨i, -, hrow⟩ := mem_rowsFrom_iff.mp hq
    omega

/-- The fields of a record lie in different columns. -/
lemma nodup_rowCells (row : Nat) (fields : List String) :
    ((rowCells row fields).map Prod.fst).Nodup := by
  rw [List.Nodup, List.pairwise_map]
  refine (pairwise_rowCells row fields).imp fun hcolumn heq => ?_
  rw [heq] at hcolumn
  exact Nat.lt_irrefl _ hcolumn

/-- The cells of records in increasing rows lie at different addresses. -/
lemma nodup_cellsOf {rows : List (Nat × List String)} (h : rows.Pairwise fun p q => p.1 < q.1) :
    ((cellsOf rows).map Prod.fst).Nodup := by
  rw [cellsOf, List.map_flatMap, List.nodup_flatMap]
  refine ⟨fun p _ => nodup_rowCells p.1 p.2, h.imp ?_⟩
  intro p q hpq a hp hq
  obtain ⟨⟨b, value⟩, hvalue, hb⟩ := List.mem_map.mp hp
  obtain ⟨⟨b', value'⟩, hvalue', hb'⟩ := List.mem_map.mp hq
  obtain rfl : b = a := hb
  obtain rfl : b' = b := hb'
  have hrow : b'.row.val = p.1 := (mem_rowCells_iff.mp hvalue).1
  have hrow' : b'.row.val = q.1 := (mem_rowCells_iff.mp hvalue').1
  omega

/-- The line feeds of a table are those of its records, added up. -/
lemma lineFeedsIn_flatten (table : List (List String)) :
    lineFeedsIn table.flatten = (table.map lineFeedsIn).sum := by
  induction table with
  | nil => rfl
  | cons fields table ih =>
    rw [List.flatten_cons, lineFeedsIn_append, ih, List.map_cons, List.sum_cons]

end Csv

namespace Sheet

open Csv (cellsOf feedsAbove rowsFrom lineFeedsIn)

/-! ## Stored cells one by one -/

/-- Texts stored at different new addresses are as many new cells. -/
lemma length_toList_putTexts {s : Sheet} {cells : List (Address × String)}
    (hnodup : (cells.map Prod.fst).Nodup) (hnew : ∀ a ∈ cells.map Prod.fst, s.cell? a = none) :
    (s.putTexts cells).toList.length = s.toList.length + cells.length := by
  induction cells generalizing s with
  | nil => rfl
  | cons first cells ih =>
    obtain ⟨b, text⟩ := first
    rw [List.map_cons, List.nodup_cons] at hnodup
    have hput : s.putTexts ((b, text) :: cells) = (s.put b (.plain text)).putTexts cells := rfl
    have hlength : (s.put b (.plain text)).toList.length = s.toList.length + 1 := by
      have hb : s.cells.contains b = false := by
        have hnone : s.cells[b]? = none := hnew b List.mem_cons_self
        rw [Std.ExtTreeMap.contains_eq_isSome_getElem?, hnone]
        rfl
      simp only [toList, put, Std.ExtTreeMap.length_toList, Std.ExtTreeMap.size_insert, hb]
      rfl
    have hrest : ∀ a ∈ cells.map Prod.fst, (s.put b (.plain text)).cell? a = none := by
      intro a ha
      have hne : b ≠ a := by
        rintro rfl
        exact hnodup.1 ha
      rw [cell?_put, if_neg hne]
      exact hnew a (List.mem_cons_of_mem _ ha)
    rw [hput, ih hnodup.2 hrest, hlength, List.length_cons]
    omega

/-- No cell is listed twice among the cells of a sheet. -/
lemma nodup_toList (s : Sheet) : s.toList.Nodup := by
  have hkeys : s.toList.Pairwise fun x y => ¬compare x.1 y.1 = .eq :=
    Std.ExtTreeMap.distinct_keys_toList
  refine hkeys.imp ?_
  rintro x y hxy rfl
  exact hxy (Std.LawfulEqOrd.compare_eq_iff_eq.mpr rfl)

/-- The address of a listed cell shows the value of this cell. -/
lemma display_of_mem_toList {s : Sheet} {a : Address} {c : Cell} (h : (a, c) ∈ s.toList) :
    s.display a = c.value := by
  rw [display, mem_toList_iff.mp h]
  rfl

/-! ## Line feeds above a row -/

/-- The line feeds within the texts that the rows above a row show. -/
def lineFeedsAbove (s : Sheet) (row : Nat) : Nat :=
  ((s.toList.filter fun cell => cell.1.row.val < row).map fun cell =>
    cell.2.value.toList.count '\n').sum

/-- The line feeds within the text at a column and a row. -/
def lineFeedsAt (s : Sheet) (row column : Nat) : Nat :=
  (((Address.ofNumbers? column row).map s.display).getD "").toList.count '\n'

/-- The line feeds of a row are those of its columns, added up. -/
lemma lineFeedsIn_rowTexts (s : Sheet) (columns row : Nat) :
    lineFeedsIn (s.rowTexts columns row) =
      ∑ column ∈ (List.range' 1 columns).toFinset, s.lineFeedsAt row column := by
  rw [List.sum_toFinset _ (List.nodup_range' 1), lineFeedsIn, rowTexts, List.count_flatMap,
    List.map_map]
  rfl

/-- The first of the numbers from one on, as they are needed for the rows above a given one. -/
lemma take_range'_one (n i : Nat) : (List.range' 1 n).take i = List.range' 1 (min i n) := by
  rcases Nat.le_total n i with h | h
  · rw [List.take_range'_of_length_le h, Nat.min_eq_right h]
  · rw [List.take_range'_of_length_ge h, Nat.min_eq_left h]

/-- The line feeds in the first records, address by address. -/
lemma feedsAbove_table_eq_sum {s : Sheet} {columns rows : Nat}
    (htable : s.table = (List.range' 1 rows).map (s.rowTexts columns)) (i : Nat) :
    feedsAbove s.table i = ∑ p ∈ (List.range' 1 (min i rows)).toFinset ×ˢ
      (List.range' 1 columns).toFinset, s.lineFeedsAt p.1 p.2 := by
  rw [feedsAbove, Csv.lineFeedsIn_flatten, htable, ← List.map_take, take_range'_one, List.map_map,
    Finset.sum_product, List.sum_toFinset _ (List.nodup_range' 1)]
  congr 1
  refine List.map_congr_left fun row _ => ?_
  exact lineFeedsIn_rowTexts s columns row

/-- Where line feeds are counted, a stored cell shows them. -/
lemma exists_cell_of_lineFeedsAt_ne {s : Sheet} {row column : Nat}
    (h : s.lineFeedsAt row column ≠ 0) : ∃ a, Address.ofNumbers? column row = some a ∧
      ∃ c, s.cell? a = some c ∧ c.value.toList.count '\n' ≠ 0 := by
  rw [lineFeedsAt] at h
  cases ha : Address.ofNumbers? column row with
  | none =>
    rw [ha] at h
    exact absurd rfl h
  | some a =>
    rw [ha, Option.map_some, Option.getD_some, display] at h
    refine ⟨a, rfl, ?_⟩
    cases hcell : s.cell? a with
    | none =>
      rw [hcell] at h
      exact absurd rfl h
    | some c =>
      rw [hcell] at h
      exact ⟨c, rfl, h⟩

/-- The line feeds in the records above a record are those in the cells above its row. -/
lemma feedsAbove_table (s : Sheet) (i : Nat) : feedsAbove s.table i = s.lineFeedsAbove (i + 1) := by
  rcases s.table_cases with ⟨htable, hnone⟩ | ⟨columns, rows, htable, hle⟩
  · have hnil : s.toList = [] := by
      rw [List.eq_nil_iff_forall_not_mem]
      rintro ⟨a, c⟩ hmem
      rw [mem_toList_iff, hnone a] at hmem
      cases hmem
    rw [htable, lineFeedsAbove, hnil, feedsAbove, List.take_nil]
    rfl
  · rw [feedsAbove_table_eq_sum htable, lineFeedsAbove,
      ← List.sum_toFinset _ (s.nodup_toList.filter _)]
    symm
    -- Cells with line feeds against the places of the table that show them.
    refine Finset.sum_bij_ne_zero (fun cell _ _ => (cell.1.row.val, cell.1.column.val)) ?_ ?_ ?_ ?_
    · rintro ⟨a, c⟩ hcell -
      obtain ⟨hmem, hrow⟩ := List.mem_filter.mp (List.mem_toFinset.mp hcell)
      have hbound := hle a c (mem_toList_iff.mp hmem)
      have hrow' : a.row.val < i + 1 := of_decide_eq_true hrow
      have hpos := a.row.pos
      have hpos' := a.column.pos
      simp only [Finset.mem_product, List.mem_toFinset, List.mem_range'_1]
      omega
    · rintro ⟨a, c⟩ hcell - ⟨b, d⟩ hcell' - heq
      have hmem := (List.mem_filter.mp (List.mem_toFinset.mp hcell)).1
      have hmem' := (List.mem_filter.mp (List.mem_toFinset.mp hcell')).1
      obtain ⟨hrow, hcolumn⟩ := Prod.mk.inj heq
      obtain rfl : a = b := Address.eq_of_val_eq hrow hcolumn
      rw [mem_toList_iff] at hmem hmem'
      rw [hmem] at hmem'
      rw [Option.some.inj hmem']
    · rintro ⟨row, column⟩ hplace hne
      simp only [Finset.mem_product, List.mem_toFinset, List.mem_range'_1] at hplace
      obtain ⟨a, ha, c, hcell, hfeeds⟩ := exists_cell_of_lineFeedsAt_ne hne
      obtain ⟨hcolumn, hrow⟩ := Address.ofNumbers?_eq_some_iff.mp ha
      refine ⟨(a, c), ?_, hfeeds, by rw [hrow, hcolumn]⟩
      rw [List.mem_toFinset, List.mem_filter]
      refine ⟨mem_toList_iff.mpr hcell, decide_eq_true ?_⟩
      dsimp only
      omega
    · rintro ⟨a, c⟩ hcell -
      have hmem := (List.mem_filter.mp (List.mem_toFinset.mp hcell)).1
      have ha : Address.ofNumbers? a.column.val a.row.val = some a :=
        Address.ofNumbers?_eq_some_iff.mpr ⟨rfl, rfl⟩
      rw [lineFeedsAt, ha, Option.map_some, Option.getD_some, display_of_mem_toList hmem]

/-- A lower row has at least as many line feeds above it as a higher one. -/
lemma lineFeedsAbove_le (s : Sheet) {row row' : Nat} (h : row ≤ row') :
    s.lineFeedsAbove row ≤ s.lineFeedsAbove row' := by
  have hsub : (s.toList.filter fun cell => cell.1.row.val < row).Sublist
      (s.toList.filter fun cell => cell.1.row.val < row') := by
    refine List.monotone_filter_right _ fun cell hcell => ?_
    have hlt := of_decide_eq_true hcell
    exact decide_eq_true (Nat.lt_of_lt_of_le hlt h)
  exact (hsub.map _).sum_le_sum fun _ _ => Nat.zero_le _

/-! ## Landing places -/

/-- A text comes back in its own column, further down by the line feeds above its row. -/
def Lands (s : Sheet) (a b : Address) : Prop :=
  b.column = a.column ∧ b.row.val = a.row.val + s.lineFeedsAbove a.row.val

/-- The grid has the rows that the rows up to the extent land in. -/
def HasRoom (s : Sheet) : Prop :=
  ∀ columns rows, s.extent? = some (columns, rows) → ∀ row, 1 ≤ row → row ≤ rows →
    row + s.lineFeedsAbove row ≤ gridSide

/-- Line feeds are shown in the last row only. -/
def OnlyLastRowHasLineFeeds (s : Sheet) : Prop :=
  ∀ columns rows, s.extent? = some (columns, rows) → ∀ a : Address, '\n' ∈ (s.display a).toList →
    a.row.val = rows

/-- No two addresses land at one place when a sheet is written and read again. -/
lemma Lands.unique {s : Sheet} {a a' b : Address} (h : s.Lands a b) (h' : s.Lands a' b) :
    a = a' := by
  obtain ⟨hcolumn, hrow⟩ := h
  obtain ⟨hcolumn', hrow'⟩ := h'
  have hrows : a.row.val = a'.row.val := by
    rcases Nat.le_total a.row.val a'.row.val with hle | hle
    · have hmono := s.lineFeedsAbove_le hle
      omega
    · have hmono := s.lineFeedsAbove_le hle
      omega
  exact Address.eq_of_val_eq hrows (congrArg Index.val (hcolumn.symm.trans hcolumn'))

/-- A text is found in an exported table exactly where a shown text lands, without the white space
around it, unless nothing is left. -/
lemma mem_cellsOf_table_iff_lands {s : Sheet} {b : Address} {value : String} :
    (b, value) ∈ cellsOf (rowsFrom 0 s.table) ↔
      value ≠ "" ∧ ∃ a, s.Lands a b ∧ value = Text.trim (s.display a) := by
  rw [mem_cellsOf_table_iff]
  have hfeeds : ∀ a : Address,
      feedsAbove s.table (a.row.val - 1) = s.lineFeedsAbove a.row.val := by
    intro a
    have hpos := a.row.pos
    rw [feedsAbove_table, Nat.sub_add_cancel hpos]
  constructor
  · rintro ⟨hvalue, a, hcolumn, hrow, htext⟩
    rw [hfeeds] at hrow
    exact ⟨hvalue, a, ⟨hcolumn.symm, hrow⟩, htext⟩
  · rintro ⟨hvalue, a, ⟨hcolumn, hrow⟩, htext⟩
    refine ⟨hvalue, a, hcolumn.symm, ?_, htext⟩
    rw [hfeeds, hrow]

/-- Whatever is shown lies within the extent of the sheet. -/
lemma exists_extent_of_display_ne {s : Sheet} {a : Address} (h : s.display a ≠ "") :
    ∃ columns rows, s.extent? = some (columns, rows) ∧ a.row.val ≤ rows := by
  obtain ⟨c, hcell⟩ := exists_cell_of_display_ne h
  rcases s.extent?_cases with ⟨-, hnone⟩ | ⟨columns, rows, hextent, hbounds⟩
  · rw [hnone a] at hcell
    cases hcell
  · have hmem : a ∈ s.toList.map Prod.fst := List.mem_map_of_mem (mem_toList_iff.mpr hcell)
    exact ⟨columns, rows, hextent, (hbounds.le a hmem).2⟩

/-- With room on the grid every text lands somewhere. -/
lemma HasRoom.exists_lands {s : Sheet} (h : s.HasRoom) {a : Address}
    (ha : Text.trim (s.display a) ≠ "") : ∃ b, s.Lands a b := by
  obtain ⟨columns, rows, hextent, hle⟩ := exists_extent_of_display_ne (display_ne_of_trim_ne ha)
  have hpos := a.row.pos
  have hroom := h columns rows hextent a.row.val hpos hle
  exact ⟨⟨⟨a.row.val + s.lineFeedsAbove a.row.val, by omega, hroom⟩, a.column⟩, rfl, rfl⟩

/-- If only the last row shows line feeds, then no text is shown below one. -/
lemma OnlyLastRowHasLineFeeds.noTextBelowLineFeed {s : Sheet} (h : s.OnlyLastRowHasLineFeeds) :
    s.NoTextBelowLineFeed := by
  intro a b hrow hfeed
  by_contra hb
  obtain ⟨columns, rows, hextent, hle⟩ := exists_extent_of_display_ne (display_ne_of_trim_ne hb)
  have hlast := h columns rows hextent a hfeed
  omega

/-! ## The round trip, address by address -/

/-- An exported sheet whose first text starts with no byte-order mark is imported as its texts, each
at the address where it lands: every text is found there, provided that the grid has room for it,
whatever is found landed there, no two texts land at one address, and every cell that was read is
stored.  So the sheet comes back as it was shown when only its last row holds line feeds. -/
theorem importCsv_exportCsv_lands (s : Sheet) (clipboard : Option Clipboard) (limits : Limits)
    (hmark : '\uFEFF' ∉ (s.display firstAddress).toList.head?) :
    ∃ restored count,
      importCsv ⟨∅, clipboard, limits⟩ (Text.Utf8.encode s.exportCsv) = .ok (restored, count) ∧
        (s.HasRoom → ∀ a, Text.trim (s.display a) ≠ "" →
          ∃ b, s.Lands a b ∧ restored.cell? b = some (.plain (Text.trim (s.display a)))) ∧
        (∀ b c, restored.cell? b = some c → ∃ a, s.Lands a b ∧
          Text.trim (s.display a) ≠ "" ∧ c = .plain (Text.trim (s.display a))) ∧
        (∀ a a' b, s.Lands a b → s.Lands a' b → a = a') ∧
        count = restored.toList.length ∧
        (s.OnlyLastRowHasLineFeeds → restored.IsTrimmedCopyOf s) := by
  have hread : Csv.read (Text.Utf8.encode s.exportCsv) = .ok (cellsOf (rowsFrom 0 s.table)) := by
    apply Csv.read_write fun fields hmem => ne_nil_of_mem_table hmem
    intro hhead
    exact hmark (byteOrderMark_mem_head?_write_table_iff.mp hhead).1
  have hempty : ∀ a, cell? ⟨∅, clipboard, limits⟩ a = none :=
    fun a => Std.ExtTreeMap.getElem?_empty
  have hcells : ∀ b, _ := cell?_putTexts ⟨∅, clipboard, limits⟩ (cellsOf (rowsFrom 0 s.table))
  refine ⟨_, _, by rw [importCsv, hread]; rfl, ?_, ?_, fun a a' b => Lands.unique, ?_, ?_⟩
  · intro hroom a ha
    obtain ⟨b, hlands⟩ := hroom.exists_lands ha
    refine ⟨b, hlands, ?_⟩
    rcases hcells b with ⟨value, hmem, hcell⟩ | ⟨hnone, -⟩
    · obtain ⟨-, a', hlands', rfl⟩ := mem_cellsOf_table_iff_lands.mp hmem
      rw [hcell, hlands.unique hlands']
    · exact absurd (mem_cellsOf_table_iff_lands.mpr ⟨ha, a, hlands, rfl⟩) (hnone _)
  · intro b c hc
    rcases hcells b with ⟨value, hmem, hcell⟩ | ⟨-, hcell⟩
    · obtain ⟨hvalue, a, hlands, rfl⟩ := mem_cellsOf_table_iff_lands.mp hmem
      rw [hcell] at hc
      exact ⟨a, hlands, hvalue, (Option.some.inj hc).symm⟩
    · rw [hcell, hempty b] at hc
      cases hc
  · have hnodup := Csv.nodup_cellsOf (Csv.pairwise_rowsFrom 0 s.table)
    rw [length_toList_putTexts hnodup fun a _ => hempty a]
    exact (Nat.zero_add _).symm
  · intro hlast
    exact isTrimmedCopyOf_table_iff.mpr hlast.noTextBelowLineFeed

/-- The text below a line feed comes back one row further down. -/
theorem importCsv_exportCsv_lands_textBelowLineFeed :
    '\uFEFF' ∉ (textBelowLineFeed.display firstAddress).toList.head? ∧
      textBelowLineFeed.HasRoom ∧ ∃ restored count,
        importCsv {} (Text.Utf8.encode textBelowLineFeed.exportCsv) = .ok (restored, count) ∧
          restored.cell? ⟨⟨3, by decide, by decide⟩, firstAddress.column⟩ = some (.plain "c") ∧
          count = restored.toList.length := by
  have hmark : '\uFEFF' ∉ (textBelowLineFeed.display firstAddress).toList.head? := by
    decide +kernel
  have hroom : textBelowLineFeed.HasRoom := by
    have hextent : textBelowLineFeed.extent? = some (1, 2) := by decide +kernel
    have hfeeds : textBelowLineFeed.lineFeedsAbove 2 = 1 := by decide +kernel
    intro columns rows h row _ hrow
    rw [hextent] at h
    cases h
    have hle := textBelowLineFeed.lineFeedsAbove_le hrow
    rw [hfeeds] at hle
    have hside : 3 ≤ gridSide := by decide
    omega
  obtain ⟨restored, count, himport, htexts, -, -, hcount, -⟩ :=
    importCsv_exportCsv_lands textBelowLineFeed none {} hmark
  refine ⟨hmark, hroom, restored, count, himport, ?_, hcount⟩
  have hlower : textBelowLineFeed.display ⟨⟨2, by decide, by decide⟩, firstAddress.column⟩ = "c" :=
    by decide +kernel
  have hfeeds : textBelowLineFeed.lineFeedsAbove 2 = 1 := by decide +kernel
  obtain ⟨b, ⟨hcolumn, hrow⟩, hcell⟩ :=
    htexts hroom ⟨⟨2, by decide, by decide⟩, firstAddress.column⟩ (by rw [hlower]; decide)
  rw [hfeeds] at hrow
  have hb : b = ⟨⟨3, by decide, by decide⟩, firstAddress.column⟩ :=
    Address.eq_of_val_eq hrow (congrArg Index.val hcolumn)
  rw [← hb, hcell, hlower]
  decide

end Sheet

end Spreadsheet
