import Spreadsheet.Cell.Series
import Spreadsheet.Proofs.Formula.Finiteness
import Spreadsheet.Proofs.Grid.Enumeration
import Spreadsheet.Proofs.Binary.ReadBack

/-!
# Chart points tile the range

The points of a range sum blocks of cells that tile it, its header row and its header column left
out (`Series.points_sum_blocks`).  The blocks are rows when there are row headers, columns when
there are column headers alone, and single cells otherwise.

A reversed range gives no points in the end, but for another reason than an empty tiling: one of its
sides may still have an extent and look like headers, and then there are points, whose blocks are
empty and whose sums are zero.
-/

namespace Spreadsheet

/-! ## Sums of one number -/

namespace Binary

variable {f : Format}

/-- Zero is the finite number of rank zero without a sign. -/
lemma zero_eq_finite (h : 0 < f.count) : (zero : Binary f) = .finite false ⟨0, h⟩ := by
  have hrank : f.nearest (0 * f.unitsPerOne) 1 = 0 := by
    rw [Nat.zero_mul]
    exact f.nearest_eq_zero (by decide)
  simp only [zero, ofNat, ofRatio, hrank, dif_pos h]

/-- Zero is the only magnitude of rank zero, so that no other number counts as zero. -/
lemma units_eq_zero_iff {rank : Nat} : f.units rank = 0 ↔ rank = 0 := by
  constructor
  · intro h
    rw [← f.nearest_units rank, h]
    exact f.nearest_eq_zero (by decide)
  · rintro rfl
    exact if_pos f.binade_pos

/-- Zero and a finite number add up to the number, a negative zero becoming positive. -/
lemma zero_add_finite (negative : Bool) (rank : Fin f.count) :
    (zero : Binary f) + .finite negative rank =
      .finite (if rank.val = 0 then false else negative) rank := by
  have hcount : 0 < f.count := Nat.lt_of_le_of_lt (Nat.zero_le _) rank.isLt
  have htotal : signedUnits false (⟨0, hcount⟩ : Fin f.count) + signedUnits negative rank =
      signedUnits negative rank := by
    simp [signedUnits]
  have habs : (signedUnits negative rank).natAbs = f.units rank := by
    cases negative <;> simp [signedUnits]
  have hround : f.nearest (f.units rank) 1 = rank := f.nearest_units rank
  have hiff : signedUnits negative rank = 0 ↔ rank.val = 0 := by
    rw [← Int.natAbs_eq_zero, habs, units_eq_zero_iff]
  have hsign : (if signedUnits negative rank = 0 then false && negative
      else decide (signedUnits negative rank < 0)) =
      if rank.val = 0 then false else negative := by
    by_cases hzero : rank.val = 0
    · rw [if_pos (hiff.mpr hzero), if_pos hzero, Bool.false_and]
    · have hpos : 0 < f.units rank := Nat.pos_of_ne_zero fun h => hzero (units_eq_zero_iff.mp h)
      rw [if_neg (mt hiff.mp hzero), if_neg hzero]
      cases negative <;> simp [signedUnits, hpos]
  rw [zero_eq_finite hcount]
  change ofRatio _ _ _ = _
  rw [htotal, habs, hsign, ofRatio]
  simp only [hround, dif_pos rank.isLt]

/-- The sum of one number is the number, but for the sign of a zero. -/
lemma sum_singleton {x : Binary f} (h : x.isFinite = true) :
    sum [x] = x ∨ (sum [x]).isZero = true ∧ x.isZero = true := by
  cases x with
  | infinite | nan => cases h
  | finite negative rank =>
    have hsum : sum [finite negative rank] =
        .finite (if rank.val = 0 then false else negative) rank := zero_add_finite negative rank
    rw [hsum]
    by_cases hzero : rank.val = 0
    · right
      simp [isZero, place?, hzero]
    · left
      rw [if_neg hzero]

end Binary

/-! ## The first index of an interval -/

/-- Behind its first index an interval has all its other ones. -/
lemma Index.mem_tail_interval {first last i : Index} :
    i ∈ (interval first last).tail ↔ i ∈ interval first last ∧ i ≠ first := by
  have hvals := map_val_interval first last
  have hlt := pairwise_interval first last
  cases hinterval : interval first last with
  | nil => simp
  | cons j js =>
    rw [hinterval] at hvals hlt
    have hj : j = first := by
      cases hlength : last.val + 1 - first.val with
      | zero => simp [hlength] at hvals
      | succ n =>
        rw [hlength, List.range'_succ, List.map_cons] at hvals
        exact val_injective (List.cons.inj hvals).1
    subst hj
    have hmem : j ∉ js := fun hmem => Nat.lt_irrefl _ (List.rel_of_pairwise_cons hlt hmem)
    rw [List.tail_cons, List.mem_cons]
    constructor
    · intro hi
      exact ⟨.inr hi, fun heq => hmem (heq ▸ hi)⟩
    · rintro ⟨rfl | hi, hne⟩
      · exact absurd rfl hne
      · exact hi

namespace Series

/-! ## Lines of cells -/

/-- Lines of cells: one for each of the first indices, with a cell for each of the second ones. -/
def lines (f : Index → Index → Address) (is js : List Index) : List (List Address) :=
  is.map fun i => js.map (f i)

section Lines

variable {f : Index → Index → Address} {is js : List Index}

/-- What holds of every cell of a line holds of the lines one by one. -/
lemma forall₂_lines {P : Index → Address → Prop} (h : ∀ i j, P i (f i j)) :
    List.Forall₂ (fun i block => ∀ a ∈ block, P i a) is (lines f is js) := by
  rw [lines, List.forall₂_map_right_iff, List.forall₂_same]
  intro i _ a ha
  obtain ⟨j, -, rfl⟩ := List.mem_map.mp ha
  exact h i j

/-- If cells increase with their second index, then so they do along each line. -/
lemma ordered_lines (h : ∀ i j j', j.val < j'.val → compare (f i j) (f i j') = .lt)
    (hjs : js.Pairwise fun j j' => j.val < j'.val) :
    ∀ block ∈ lines f is js, block.Pairwise fun a b => compare a b = .lt := by
  intro block hblock
  obtain ⟨i, -, rfl⟩ := List.mem_map.mp hblock
  exact List.pairwise_map.mpr (hjs.imp (h i _ _))

/-- Lines of different indices have no cell in common. -/
lemma disjoint_lines (h : ∀ i i' j j', f i j = f i' j' → i = i')
    (his : is.Pairwise fun i i' => i.val < i'.val) : (lines f is js).Pairwise List.Disjoint := by
  refine List.pairwise_map.mpr (his.imp fun {i i'} hlt a ha ha' => ?_)
  obtain ⟨j, -, rfl⟩ := List.mem_map.mp ha
  obtain ⟨j', -, heq⟩ := List.mem_map.mp ha'
  obtain rfl := h _ _ _ _ heq
  exact Nat.lt_irrefl _ hlt

/-- Some line holds the address exactly when the address is made of one of the first and one of the
second indices. -/
lemma exists_mem_lines {a : Address} :
    (∃ block ∈ lines f is js, a ∈ block) ↔ ∃ i ∈ is, ∃ j ∈ js, f i j = a := by
  simp only [lines, List.mem_map, exists_exists_and_eq_and]

end Lines

/-! ## Tilings -/

/-- Blocks of cells that tile a range without its header row and its header column. -/
structure Tiles (rowHeaders columnHeaders : Bool) (r : Range) (blocks : List (List Address)) :
    Prop where
  /-- With row headers one block lies in each row left, from top to bottom. -/
  rows : rowHeaders = true → List.Forall₂ (fun row block => ∀ a ∈ block, a.row = row)
    (if columnHeaders then r.rows.tail else r.rows) blocks
  /-- With column headers alone one block lies in each column, from left to right. -/
  columns : rowHeaders = false → columnHeaders = true →
    List.Forall₂ (fun column block => ∀ a ∈ block, a.column = column) r.columns blocks
  /-- Without headers each cell is a block, row by row. -/
  single : rowHeaders = false → columnHeaders = false → blocks = r.cells.map fun a => [a]
  /-- A block lists its cells from left to right and from top to bottom. -/
  ordered : ∀ block ∈ blocks, block.Pairwise fun a b => compare a b = .lt
  disjoint : blocks.Pairwise List.Disjoint
  covers : ∀ a, (∃ block ∈ blocks, a ∈ block) ↔ a ∈ r.cells ∧
    (rowHeaders = true → a.column ≠ r.first.column) ∧ (columnHeaders = true → a.row ≠ r.first.row)

variable {cells : Snapshot} {r : Range}

/-- A range holds the addresses with one of its rows and one of its columns. -/
lemma mem_cells_iff {a : Address} : a ∈ r.cells ↔ a.row ∈ r.rows ∧ a.column ∈ r.columns := by
  rw [Range.mem_cells, Range.rows, Range.columns, Index.mem_interval, Index.mem_interval]

/-- The rows left are all rows, or all but the first one. -/
lemma mem_rows_left {columnHeaders : Bool} {row : Index} :
    row ∈ (if columnHeaders then r.rows.tail else r.rows) ↔
      row ∈ r.rows ∧ (columnHeaders = true → row ≠ r.first.row) := by
  cases columnHeaders with
  | true => simp [Range.rows, Index.mem_tail_interval]
  | false => simp

/-- Under row headers the rows are the blocks: without their header cells, and without the first row
where it holds column headers. -/
lemma tiles_rows (columnHeaders : Bool) :
    Tiles true columnHeaders r (lines (fun row column => ⟨row, column⟩)
      (if columnHeaders then r.rows.tail else r.rows) r.columns.tail) where
  rows _ := forall₂_lines fun _ _ => rfl
  columns h := nomatch h
  single h := nomatch h
  ordered := ordered_lines (fun _ _ _ h => Address.compare_eq_lt_iff.mpr (.inr ⟨rfl, h⟩))
    (Index.pairwise_interval _ _).tail
  disjoint := by
    refine disjoint_lines (fun _ _ _ _ h => congrArg Address.row h) ?_
    split
    · exact (Index.pairwise_interval _ _).tail
    · exact Index.pairwise_interval _ _
  covers a := by
    rw [exists_mem_lines, mem_cells_iff]
    constructor
    · rintro ⟨row, hrow, column, hcolumn, rfl⟩
      obtain ⟨hrow, hfirst⟩ := mem_rows_left.mp hrow
      obtain ⟨hcolumn, hne⟩ := Index.mem_tail_interval.mp hcolumn
      exact ⟨⟨hrow, hcolumn⟩, fun _ => hne, hfirst⟩
    · rintro ⟨⟨hrow, hcolumn⟩, hne, hfirst⟩
      exact ⟨a.row, mem_rows_left.mpr ⟨hrow, hfirst⟩, a.column,
        Index.mem_tail_interval.mpr ⟨hcolumn, hne rfl⟩, rfl⟩

/-- Under column headers alone the columns are the blocks, each without its header cell. -/
lemma tiles_columns :
    Tiles false true r (lines (fun column row => ⟨row, column⟩) r.columns r.rows.tail) where
  rows h := nomatch h
  columns _ _ := forall₂_lines fun _ _ => rfl
  single _ h := nomatch h
  ordered := ordered_lines (fun _ _ _ h => Address.compare_eq_lt_iff.mpr (.inl h))
    (Index.pairwise_interval _ _).tail
  disjoint := disjoint_lines (fun _ _ _ _ h => congrArg Address.column h)
    (Index.pairwise_interval _ _)
  covers a := by
    rw [exists_mem_lines, mem_cells_iff]
    constructor
    · rintro ⟨column, hcolumn, row, hrow, rfl⟩
      obtain ⟨hrow, hne⟩ := Index.mem_tail_interval.mp hrow
      exact ⟨⟨hrow, hcolumn⟩, fun h => (nomatch h), fun _ => hne⟩
    · rintro ⟨⟨hrow, hcolumn⟩, -, hne⟩
      exact ⟨a.column, hcolumn, a.row, Index.mem_tail_interval.mpr ⟨hrow, hne rfl⟩, rfl⟩

/-- Without headers every cell is a block of its own. -/
lemma tiles_cells : Tiles false false r (r.cells.map fun a => [a]) where
  rows h := nomatch h
  columns _ h := nomatch h
  single _ _ := rfl
  ordered := by
    intro block hblock
    obtain ⟨a, -, rfl⟩ := List.mem_map.mp hblock
    exact List.pairwise_singleton _ a
  disjoint := by
    refine List.pairwise_map.mpr (r.pairwise_cells.imp fun {a b} hlt => ?_)
    rw [List.disjoint_singleton, List.mem_singleton]
    rintro rfl
    rw [Std.ReflOrd.compare_self] at hlt
    cases hlt
  covers a := by simp

/-! ## Points -/

/-- The value of a point is the sum of the numbers in a block, but for the sign of a zero. -/
def Point.Sums (cells : Snapshot) (p : Point) (block : List Address) : Prop :=
  p.value = sumAt cells block ∨ p.value.isZero = true ∧ (sumAt cells block).isZero = true

/-- Points whose values are summed along lines have the sums of these lines. -/
lemma forall₂_sums_lines {point : Index → Point} {f : Index → Index → Address} {is js : List Index}
    (h : ∀ i, (point i).value = sumAt cells (js.map (f i))) :
    List.Forall₂ (Point.Sums cells) (is.map point) (lines f is js) := by
  rw [lines, List.forall₂_map_left_iff, List.forall₂_map_right_iff, List.forall₂_same]
  exact fun i _ => .inl (h i)

/-- The number at an address was read from a text, or is zero. -/
lemma isFinite_numberAt (a : Address) : (numberAt cells a).isFinite = true := by
  rw [numberAt]
  cases hnumber : (cells a).bind Number.ofCellText? with
  | none =>
    rw [Option.getD_none]
    exact Number.isFinite_zero
  | some n =>
    rw [Option.getD_some]
    obtain ⟨s, -, hs⟩ := Option.bind_eq_some_iff.mp hnumber
    exact Number.isFinite_of_ofCellText? hs

/-- The point that a single cell makes sums this cell and no other. -/
lemma cellPoint_sums (a : Address) : (cellPoint cells a).Sums cells [a] := by
  have hfinite : (numberAt cells a).isFinite = true := isFinite_numberAt a
  rw [Point.Sums, sumAt, List.map_singleton, cellPoint]
  rcases Binary.sum_singleton hfinite with hsum | ⟨hsum, hzero⟩
  · exact .inl hsum.symm
  · exact .inr ⟨hzero, hsum⟩

/-- The points of a range sum blocks that tile it. -/
lemma exists_tiles (cells : Snapshot) (r : Range) : ∃ blocks,
    Tiles (hasRowHeaders cells r) (hasColumnHeaders cells r) r blocks ∧
      List.Forall₂ (Point.Sums cells) (points cells r) blocks := by
  unfold points
  cases hasRowHeaders cells r with
  | true =>
    cases hasColumnHeaders cells r with
    | true => exact ⟨_, tiles_rows true, forall₂_sums_lines fun _ => rfl⟩
    | false => exact ⟨_, tiles_rows false, forall₂_sums_lines fun _ => rfl⟩
  | false =>
    cases hasColumnHeaders cells r with
    | true => exact ⟨_, tiles_columns, forall₂_sums_lines fun _ => rfl⟩
    | false =>
      refine ⟨_, tiles_cells, ?_⟩
      rw [List.forall₂_map_left_iff, List.forall₂_map_right_iff, List.forall₂_same]
      exact fun a _ => cellPoint_sums a

/-- Points that sum empty blocks have the value zero. -/
lemma isZero_value_of_nil {ps : List Point} {blocks : List (List Address)}
    (h : List.Forall₂ (Point.Sums cells) ps blocks) (hnil : ∀ block ∈ blocks, block = []) :
    ∀ p ∈ ps, p.value.isZero = true := by
  have hempty : (sumAt cells []).isZero = true := by
    rw [sumAt, List.map_nil, Binary.sum, List.foldl_nil]
    decide +kernel
  induction h with
  | nil => simp
  | @cons p block ps blocks hp _ ih =>
    rw [List.forall_mem_cons] at hnil ⊢
    refine ⟨?_, ih hnil.2⟩
    rw [hnil.1] at hp
    rcases hp with hp | ⟨hp, -⟩
    · rw [hp, hempty]
    · exact hp

/-- The points of a range sum blocks of cells that tile it: without its first column when there are
row headers, without its first row when there are column headers, and each other cell once.  What
is extracted are the points whose value is not zero, in order, and a reversed range gives none. -/
theorem points_sum_blocks (cells : Snapshot) (r : Range) :
    (∃ blocks, Tiles (hasRowHeaders cells r) (hasColumnHeaders cells r) r blocks ∧
      List.Forall₂ (Point.Sums cells) (points cells r) blocks) ∧
    extract cells r = (points cells r).filter (fun p => !p.value.isZero) ∧
    (r.Reversed → extract cells r = []) := by
  refine ⟨exists_tiles cells r, rfl, fun hreversed => ?_⟩
  obtain ⟨blocks, htiles, hsums⟩ := exists_tiles cells r
  have hcells : r.cells = [] := by
    rw [← List.length_eq_zero_iff, Range.length_cells, Range.cellCount_eq_zero_iff]
    exact hreversed
  have hnil : ∀ block ∈ blocks, block = [] := by
    intro block hblock
    refine List.eq_nil_iff_forall_not_mem.mpr fun a ha => ?_
    obtain ⟨hmem, -⟩ := (htiles.covers a).mp ⟨block, hblock, ha⟩
    rw [hcells] at hmem
    cases hmem
  refine List.filter_eq_nil_iff.mpr fun p hp => ?_
  rw [isZero_value_of_nil hsums hnil p hp]
  decide

/-- The columns of this range are in the wrong order, and yet its first one looks like row headers,
so that there are points. -/
theorem points_sum_blocks_reversed :
    let b1 : Address := ⟨⟨1, by decide, by decide⟩, ⟨2, by decide, by decide⟩⟩
    let a3 : Address := ⟨⟨3, by decide, by decide⟩, ⟨1, by decide, by decide⟩⟩
    let cells : Snapshot := fun a => if a.row.val = 3 then some "3" else some "x"
    Range.Reversed ⟨b1, a3⟩ ∧ hasRowHeaders cells ⟨b1, a3⟩ = true ∧
      (points cells ⟨b1, a3⟩).map Point.name = ["x", "x", "3"] ∧ extract cells ⟨b1, a3⟩ = [] := by
  intro b1 a3 cells
  have hreversed : Range.Reversed ⟨b1, a3⟩ := by decide
  obtain ⟨-, -, hextract⟩ := points_sum_blocks cells ⟨b1, a3⟩
  exact ⟨hreversed, by decide +kernel, by decide +kernel, hextract hreversed⟩

end Series

end Spreadsheet
