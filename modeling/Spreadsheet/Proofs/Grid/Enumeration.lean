import Mathlib.Data.List.Basic
import Mathlib.Tactic.Common
import Spreadsheet.Grid.Range

/-!
# Enumerating the cells of a range

A range is walked through in words of 32 bits: from a position the walk goes one column on, at the
end of a row to the first column of the next row, and behind the last position it ends
(`Walk.after?`).  The main result, `Range.walk_cells`, is that for every two corners, those in the
last column or row and reversed ones included, the walk gives the cells of the range and ends: all
cells between the corners, each once, row by row and from left to right, as many as are counted.  No
step leaves the words, and neither does the count, which is taken in words of 64 bits and would be
cut off at the largest one.

The walk is followed on plain numbers, from column to column within a row (`Walk.gives_columns`)
and from row to row (`Walk.gives_rows`).
-/

namespace Spreadsheet

/-! ## The order of addresses -/

/-- Addresses are ordered by their rows, and by their columns within a row. -/
lemma Address.compare_eq_lt_iff {a b : Address} : compare a b = .lt ↔
    a.row.val < b.row.val ∨ a.row = b.row ∧ a.column.val < b.column.val := by
  have hcompare : compare a b =
      (compare a.row.val b.row.val).then (compare a.column.val b.column.val) := rfl
  rw [hcompare, Ordering.then_eq_lt, Nat.compare_eq_lt, Nat.compare_eq_lt, Nat.compare_eq_eq,
    Index.val_inj]

/-! ## Positions in words -/

/-- A row and a column as words. -/
structure Position where
  row : UInt32
  column : UInt32
deriving DecidableEq

/-- The position with given row and column numbers. -/
def Position.ofNumbers (row column : Nat) : Position where
  row := .ofNat row
  column := .ofNat column

/-- An address in words. -/
def Address.position (a : Address) : Position :=
  .ofNumbers a.row.val a.column.val

/-- Words hold every number up to the side of the grid. -/
lemma toNat_ofNat_of_le_gridSide {n : Nat} (h : n ≤ gridSide) : (UInt32.ofNat n).toNat = n := by
  rw [gridSide] at h
  rw [UInt32.toNat_ofNat']
  omega

/-- The position of an address in words has the same two numbers as the address. -/
lemma Address.toNat_position (a : Address) :
    a.position.row.toNat = a.row.val ∧ a.position.column.toNat = a.column.val :=
  ⟨toNat_ofNat_of_le_gridSide a.row.le_side, toNat_ofNat_of_le_gridSide a.column.le_side⟩

/-- The next number has the next word, also where words wrap around. -/
lemma ofNat_add_one (n : Nat) : UInt32.ofNat (n + 1) = UInt32.ofNat n + 1 :=
  UInt32.ofNat_add n 1

/-- Below another word the next number is a word too, so adding one does not wrap around. -/
lemma toNat_add_one_of_lt {m n : UInt32} (h : m < n) : (m + 1).toNat = m.toNat + 1 := by
  rw [UInt32.lt_iff_toNat_lt] at h
  have hside := n.toNat_lt
  rw [UInt32.toNat_add, UInt32.toNat_one]
  omega

/-! ## Walks -/

/-- A walk between two corners, and the position that it gives next unless it has ended. -/
structure Walk where
  first : Position
  last : Position
  next : Option Position

namespace Walk

/-- The first position in the row below, unless the row is the last one. -/
def below? (w : Walk) (row : UInt32) : Option Position :=
  if row < w.last.row then some ⟨row + 1, w.first.column⟩ else none

/-- The position behind another one: in the next column, or at the end of a row in the row below. -/
def after? (w : Walk) (p : Position) : Option Position :=
  if p.column < w.last.column then some { p with column := p.column + 1 } else w.below? p.row

/-- The position that a walk gives, and the walk behind it. -/
def step? (w : Walk) : Option (Position × Walk) :=
  w.next.map fun p => (p, { w with next := w.after? p })

/-- The walk gives the positions one after another, and then it ends. -/
inductive Gives : Walk → List Position → Prop
  | done {w : Walk} (h : w.step? = none) : w.Gives []
  | more {w w' : Walk} {p : Position} {ps : List Position} (h : w.step? = some (p, w'))
      (hs : w'.Gives ps) : w.Gives (p :: ps)

variable {w : Walk} {row column : Nat}

/-- From a column on the walk gives the rest of the row, and then what it gives in the row below. -/
lemma gives_columns {n : Nat} {ps : List Position} (hlast : w.last.column.toNat = column + n)
    (hrest : { w with next := w.below? (.ofNat row) }.Gives ps) :
    { w with next := some (.ofNumbers row column) }.Gives
      ((List.range' column (n + 1)).map (Position.ofNumbers row) ++ ps) := by
  have hside := w.last.column.toNat_lt
  have hcolumn : (UInt32.ofNat column).toNat = column := by
    rw [UInt32.toNat_ofNat']
    omega
  induction n generalizing column with
  | zero =>
    refine .more ?_ hrest
    have hend : ¬UInt32.ofNat column < w.last.column := by
      rw [UInt32.lt_iff_toNat_lt, hcolumn, hlast]
      exact Nat.lt_irrefl _
    simp only [step?, after?, Position.ofNumbers, if_neg hend, Option.map_some]
    rfl
  | succ n ih =>
    have hnext : UInt32.ofNat column < w.last.column := by
      rw [UInt32.lt_iff_toNat_lt, hcolumn, hlast]
      omega
    have hcolumn' : (UInt32.ofNat (column + 1)).toNat = column + 1 := by
      rw [ofNat_add_one, toNat_add_one_of_lt hnext, hcolumn]
    have hlast' : w.last.column.toNat = column + 1 + n := by omega
    rw [List.range'_succ, List.map_cons, List.cons_append]
    refine .more ?_ (ih hlast' hcolumn')
    simp only [step?, after?, Position.ofNumbers, if_pos hnext, Option.map_some, ofNat_add_one]

/-- From the first column of a row on the walk gives that row and all rows below. -/
lemma gives_rows {m n : Nat} (hfirst : w.first.column = .ofNat column)
    (hlast : w.last.column.toNat = column + n) (hrow : w.last.row.toNat = row + m) :
    { w with next := some (.ofNumbers row column) }.Gives
      ((List.range' row (m + 1)).flatMap fun row =>
        (List.range' column (n + 1)).map (Position.ofNumbers row)) := by
  have hside := w.last.row.toNat_lt
  have hword : (UInt32.ofNat row).toNat = row := by
    rw [UInt32.toNat_ofNat']
    omega
  induction m generalizing row with
  | zero =>
    refine gives_columns hlast (.done ?_)
    have hend : ¬UInt32.ofNat row < w.last.row := by
      rw [UInt32.lt_iff_toNat_lt, hword, hrow]
      exact Nat.lt_irrefl _
    rw [step?, below?, if_neg hend]
    rfl
  | succ m ih =>
    have hnext : UInt32.ofNat row < w.last.row := by
      rw [UInt32.lt_iff_toNat_lt, hword, hrow]
      omega
    have hword' : (UInt32.ofNat (row + 1)).toNat = row + 1 := by
      rw [ofNat_add_one, toNat_add_one_of_lt hnext, hword]
    have hbelow : w.below? (.ofNat row) = some (.ofNumbers (row + 1) column) := by
      rw [below?, if_pos hnext, Position.ofNumbers, ofNat_add_one, hfirst]
    rw [List.range'_succ (s := row), List.flatMap_cons]
    refine gives_columns hlast ?_
    rw [hbelow]
    exact ih (by omega) hword'

end Walk

/-! ## Indices -/

namespace Index

/-- Every number between two indices is an index, so an interval of them is an interval of numbers.
-/
lemma map_val_interval (first last : Index) :
    (interval first last).map val = List.range' first.val (last.val + 1 - first.val) := by
  have hpos := first.pos
  have hside := last.le_side
  rw [interval, List.map_filterMap]
  refine (List.filterMap_congr fun n hn => ?_).trans List.filterMap_some
  rw [List.mem_range'_1] at hn
  have hindex : ofNat? n = some ⟨n, by omega, by omega⟩ := ofNat?_eq_some_iff.mpr rfl
  rw [hindex]
  rfl

/-- An interval has as many indices as there are from its first end to its last one, and none when
the ends are reversed. -/
lemma length_interval (first last : Index) :
    (interval first last).length = last.val + 1 - first.val := by
  rw [← List.length_map val, map_val_interval, List.length_range']

/-- The indices of an interval come in increasing order. -/
lemma pairwise_interval (first last : Index) :
    (interval first last).Pairwise fun i j => i.val < j.val := by
  rw [← List.pairwise_map, map_val_interval]
  exact List.pairwise_lt_range'

end Index

/-! ## Ranges -/

/-- The product of two words, cut off at the largest word. -/
def saturatingMul (m n : UInt64) : UInt64 :=
  .ofNat (min (m.toNat * n.toNat) (UInt64.size - 1))

namespace Range

/-- The second corner lies above or left of the first. -/
def Reversed (r : Range) : Prop :=
  r.last.row.val < r.first.row.val ∨ r.last.column.val < r.first.column.val

instance (r : Range) : Decidable r.Reversed :=
  inferInstanceAs (Decidable (_ ∨ _))

/-- Cells covered, counted in words. -/
def wordCount (r : Range) : UInt64 :=
  if r.Reversed then 0
  else saturatingMul ((r.last.position.row - r.first.position.row).toUInt64 + 1)
    ((r.last.position.column - r.first.position.column).toUInt64 + 1)

/-- The walk through the cells. -/
def walk (r : Range) : Walk where
  first := r.first.position
  last := r.last.position
  next := if r.wordCount = 0 then none else some r.first.position

variable {r : Range}

/-- A range is reversed when it has no rows or no columns. -/
lemma reversed_iff : r.Reversed ↔ r.height = 0 ∨ r.width = 0 := by
  unfold Reversed height width
  omega

/-- A range has no cells just when it is reversed in its columns or in its rows. -/
lemma cellCount_eq_zero_iff : r.cellCount = 0 ↔ r.Reversed := by
  rw [reversed_iff, cellCount, Nat.mul_eq_zero]

/-- The grid has fewer cells than there are words of 64 bits. -/
lemma cellCount_le (r : Range) : r.cellCount ≤ gridSide * gridSide := by
  have hrow := r.first.row.pos
  have hcolumn := r.first.column.pos
  have hrow' := r.last.row.le_side
  have hcolumn' := r.last.column.le_side
  apply Nat.mul_le_mul
  · unfold height
    omega
  · unfold width
    omega

/-- The distance between two words and one more is exact in the wider word, even where it would wrap
in the narrow one. -/
lemma toNat_sub_add_one {m n : UInt32} (h : m.toNat ≤ n.toNat) :
    ((n - m).toUInt64 + 1).toNat = n.toNat + 1 - m.toNat := by
  have hside := n.toNat_lt
  rw [UInt64.toNat_add, UInt64.toNat_one, UInt32.toNat_toUInt64,
    UInt32.toNat_sub_of_le n m (UInt32.le_iff_toNat_le.mpr h)]
  omega

/-- The count in words is exact for every range, since the product of two sides stays below the
largest word. -/
lemma toNat_wordCount (r : Range) : r.wordCount.toNat = r.cellCount := by
  unfold wordCount
  split
  case isTrue h =>
    rw [cellCount_eq_zero_iff.mpr h]
    rfl
  case isFalse h =>
    rw [Reversed, not_or, Nat.not_lt, Nat.not_lt] at h
    obtain ⟨hrow, hcolumn⟩ := r.first.toNat_position
    obtain ⟨hrow', hcolumn'⟩ := r.last.toNat_position
    have hheight : ((r.last.position.row - r.first.position.row).toUInt64 + 1).toNat =
        r.height := by
      rw [toNat_sub_add_one (by omega), hrow, hrow', height]
    have hwidth : ((r.last.position.column - r.first.position.column).toUInt64 + 1).toNat =
        r.width := by
      rw [toNat_sub_add_one (by omega), hcolumn, hcolumn', width]
    have hcount := r.cellCount_le
    have hgrid : gridSide * gridSide < UInt64.size := by decide
    rw [saturatingMul, hheight, hwidth, ← cellCount, UInt64.toNat_ofNat', Nat.min_eq_left]
    · exact Nat.mod_eq_of_lt (Nat.lt_of_le_of_lt hcount hgrid)
    · omega

/-- A range without cells has no rows or no columns. -/
lemma cells_eq_flatMap (r : Range) :
    r.cells = r.rows.flatMap fun row => r.columns.map fun column => ⟨row, column⟩ := by
  unfold cells
  split
  case isTrue h =>
    rcases reversed_iff.mp (cellCount_eq_zero_iff.mp h) with hheight | hwidth
    · have hrows : r.rows = [] := List.length_eq_zero_iff.mp (by
        rw [rows, Index.length_interval, ← height, hheight])
      rw [hrows]
      rfl
    · have hcolumns : r.columns = [] := List.length_eq_zero_iff.mp (by
        rw [columns, Index.length_interval, ← width, hwidth])
      simp [hcolumns]
  case isFalse => rfl

/-- A range has as many cells as its height and width say. -/
lemma length_cells (r : Range) : r.cells.length = r.cellCount := by
  have hcolumns : r.columns.length = r.width := Index.length_interval _ _
  have hrows : r.rows.length = r.height := Index.length_interval _ _
  simp only [cells_eq_flatMap, List.length_flatMap, List.length_map, hcolumns, List.map_const',
    List.sum_replicate_nat, hrows, cellCount]

/-- The cells of a range come row by row, in the order of addresses. -/
lemma pairwise_cells (r : Range) : r.cells.Pairwise fun a b => compare a b = .lt := by
  rw [cells_eq_flatMap, List.pairwise_flatMap]
  constructor
  · intro row _
    rw [List.pairwise_map]
    refine (Index.pairwise_interval _ _).imp fun {column column'} h => ?_
    exact Address.compare_eq_lt_iff.mpr (.inr ⟨rfl, h⟩)
  · refine (Index.pairwise_interval _ _).imp fun {row row'} h a ha b hb => ?_
    obtain ⟨column, -, rfl⟩ := List.mem_map.mp ha
    obtain ⟨column', -, rfl⟩ := List.mem_map.mp hb
    exact Address.compare_eq_lt_iff.mpr (.inl h)

/-- The cells of a range in words are the rows one after another, each with its columns from left to
right. -/
lemma map_position_cells (r : Range) : r.cells.map Address.position =
    (List.range' r.first.row.val r.height).flatMap fun row =>
      (List.range' r.first.column.val r.width).map (Position.ofNumbers row) := by
  have hrows : r.rows.map Index.val = List.range' r.first.row.val r.height :=
    Index.map_val_interval _ _
  have hcolumns : r.columns.map Index.val = List.range' r.first.column.val r.width :=
    Index.map_val_interval _ _
  rw [cells_eq_flatMap, List.map_flatMap, ← hrows, ← hcolumns, List.flatMap_map]
  simp only [List.map_map]
  rfl

/-- The walk over a range gives its cells in order and then ends. -/
lemma gives_cells (r : Range) : r.walk.Gives (r.cells.map Address.position) := by
  have hcount := r.toNat_wordCount
  unfold walk
  by_cases h : r.Reversed
  · have hzero : r.cellCount = 0 := cellCount_eq_zero_iff.mpr h
    have hnone : r.cells = [] := List.length_eq_zero_iff.mp (r.length_cells.trans hzero)
    have hword : r.wordCount = 0 := UInt64.toNat_inj.mp (hcount.trans hzero)
    rw [hnone, hword]
    exact .done rfl
  · have hword : r.wordCount ≠ 0 := by
      intro hword
      rw [hword] at hcount
      exact h (cellCount_eq_zero_iff.mp hcount.symm)
    obtain ⟨-, hcolumn⟩ := r.last.toNat_position
    obtain ⟨hrow, -⟩ := r.last.toNat_position
    rw [Reversed, not_or, Nat.not_lt, Nat.not_lt] at h
    have hheight : r.height = r.last.row.val - r.first.row.val + 1 := by
      unfold height
      omega
    have hwidth : r.width = r.last.column.val - r.first.column.val + 1 := by
      unfold width
      omega
    rw [map_position_cells, hheight, hwidth, if_neg hword]
    exact Walk.gives_rows (w := ⟨r.first.position, r.last.position, none⟩) rfl
      (by dsimp only; omega) (by dsimp only; omega)

/-- A step within a range adds one to the column or to the row, and no word overflows. -/
lemma after?_walk_cases {p q : Position} (h : r.walk.after? p = some q) :
    q.row = p.row ∧ q.column.toNat = p.column.toNat + 1 ∨
      q.row.toNat = p.row.toNat + 1 ∧ q.column = r.first.position.column := by
  unfold Walk.after? Walk.below? at h
  split at h
  case isTrue hcolumn =>
    cases h
    exact .inl ⟨rfl, toNat_add_one_of_lt hcolumn⟩
  case isFalse =>
    split at h
    case isTrue hrow =>
      cases h
      exact .inr ⟨toNat_add_one_of_lt hrow, rfl⟩
    case isFalse => cases h

/-- The walk through a range gives its cells and ends.  These are the addresses between the corners,
in increasing order and so each once, and as many as are counted: the columns times the rows, and
none just when the second corner lies above or left of the first.  The count in words is exact,
below the word that it would be cut off at, and every step in words adds one to a number without
overflow. -/
theorem walk_cells (r : Range) :
    r.walk.Gives (r.cells.map Address.position) ∧
    (∀ a, a ∈ r.cells ↔ (r.first.column.val ≤ a.column.val ∧ a.column.val ≤ r.last.column.val) ∧
      r.first.row.val ≤ a.row.val ∧ a.row.val ≤ r.last.row.val) ∧
    (r.cells.Pairwise fun a b => compare a b = .lt) ∧
    r.cells.length = r.cellCount ∧
    (r.wordCount.toNat = r.cellCount ∧ r.cellCount < UInt64.size - 1) ∧
    (r.cellCount = 0 ↔ r.Reversed) ∧
    ∀ p q, r.walk.after? p = some q → q.row = p.row ∧ q.column.toNat = p.column.toNat + 1 ∨
      q.row.toNat = p.row.toNat + 1 ∧ q.column = r.first.position.column := by
  have hgrid : gridSide * gridSide < UInt64.size - 1 := by decide
  refine ⟨r.gives_cells, fun a => ?_, r.pairwise_cells, r.length_cells,
    ⟨r.toNat_wordCount, Nat.lt_of_le_of_lt r.cellCount_le hgrid⟩, cellCount_eq_zero_iff,
    fun p q => after?_walk_cases⟩
  rw [mem_cells, and_comm]

end Range

end Spreadsheet
