import Mathlib.Data.List.Forall2
import Spreadsheet.Grid.Range

/-!
# Moving ranges

Moving both corners of a range by one distance moves the cells that it covers by that distance, each
to the same place in the list (`Range.forall₂_cells_of_offset?`), and so covers as many of them.
This holds of reversed ranges too, which cover nothing before and after.
-/

namespace Spreadsheet

/-! ## Columns and rows -/

namespace Index

/-- Consecutive indices that stay on the grid move one by one. -/
lemma forall₂_filterMap_range' {delta : Int} {n s t : Nat} (ht : (t : Int) = s + delta)
    (hs₀ : 0 < s) (ht₀ : 0 < t) (hs : s + n ≤ gridSide + 1) (hn : t + n ≤ gridSide + 1) :
    List.Forall₂ (fun i j => i.shift? delta = some j)
      ((List.range' s n).filterMap ofNat?) ((List.range' t n).filterMap ofNat?) := by
  induction n generalizing s t with
  | zero => exact List.Forall₂.nil
  | succ n ih =>
    have hfirst : ofNat? s = some ⟨s, hs₀, by omega⟩ := ofNat?_eq_some_iff.mpr rfl
    have hfirst' : ofNat? t = some ⟨t, ht₀, by omega⟩ := ofNat?_eq_some_iff.mpr rfl
    rw [List.range'_succ, List.range'_succ, List.filterMap_cons_some hfirst,
      List.filterMap_cons_some hfirst']
    refine List.Forall₂.cons (shift?_eq_some_iff.mpr ht) (ih ?_ ?_ ?_ ?_ ?_) <;> omega

/-- When its ends are moved, the indices of an interval are moved with them, one by one. -/
lemma forall₂_interval_of_shift? {delta : Int} {first last first' last' : Index}
    (hfirst : first.shift? delta = some first') (hlast : last.shift? delta = some last') :
    List.Forall₂ (fun i j => i.shift? delta = some j) (interval first last)
      (interval first' last') := by
  rw [shift?_eq_some_iff] at hfirst hlast
  have hcount : last'.val + 1 - first'.val = last.val + 1 - first.val := by omega
  have hside := first.le_side
  have hside' := first'.le_side
  have hlast_side := last.le_side
  have hlast_side' := last'.le_side
  unfold interval
  rw [hcount]
  apply forall₂_filterMap_range' hfirst first.pos first'.pos <;> omega

end Index

/-! ## Addresses and ranges -/

/-- An address moves by its column and by its row. -/
lemma Address.offset?_eq_some_iff {a b : Address} {columns rows : Int} :
    a.offset? columns rows = some b ↔
      a.column.shift? columns = some b.column ∧ a.row.shift? rows = some b.row := by
  simp only [offset?, Option.bind_eq_bind, Option.bind_eq_some_iff]
  constructor
  · rintro ⟨column, hcolumn, row, hrow, hb⟩
    cases hb
    exact ⟨hcolumn, hrow⟩
  · rintro ⟨hcolumn, hrow⟩
    exact ⟨b.column, hcolumn, b.row, hrow, rfl⟩

/-- Moving by one distance and then by another one is moving by their sum, if the grid has the
address between them. -/
lemma Address.offset?_offset? {a b : Address} {columns rows : Int}
    (h : a.offset? columns rows = some b) (columns' rows' : Int) :
    b.offset? columns' rows' = a.offset? (columns + columns') (rows + rows') := by
  ext c
  simp only [offset?_eq_some_iff, Index.shift?_eq_some_iff] at h ⊢
  omega

namespace Range

variable {columns rows : Int} {r r' : Range}

/-- A range both of whose corners are moved has as many cells as before. -/
lemma cellCount_of_offset? (hfirst : r.first.offset? columns rows = some r'.first)
    (hlast : r.last.offset? columns rows = some r'.last) : r'.cellCount = r.cellCount := by
  simp only [Address.offset?_eq_some_iff, Index.shift?_eq_some_iff] at hfirst hlast
  have hheight : r'.height = r.height := by
    unfold height
    omega
  have hwidth : r'.width = r.width := by
    unfold width
    omega
  rw [cellCount, cellCount, hheight, hwidth]

/-- The cells of a moved range are the moved cells, in the same order. -/
lemma forall₂_cells_of_offset? (hfirst : r.first.offset? columns rows = some r'.first)
    (hlast : r.last.offset? columns rows = some r'.last) :
    List.Forall₂ (fun a b => a.offset? columns rows = some b) r.cells r'.cells := by
  have hcount := cellCount_of_offset? hfirst hlast
  rw [Address.offset?_eq_some_iff] at hfirst hlast
  unfold cells
  rw [hcount]
  split
  · exact List.Forall₂.nil
  · refine List.rel_flatMap (Index.forall₂_interval_of_shift? hfirst.2 hlast.2) ?_
    intro row row' hrow
    refine List.rel_map ?_ (Index.forall₂_interval_of_shift? hfirst.1 hlast.1)
    intro column column' hcolumn
    exact Address.offset?_eq_some_iff.mpr ⟨hcolumn, hrow⟩

end Range

end Spreadsheet
