import Spreadsheet.Cell.Series
import Spreadsheet.Proofs.Formula.Locality

/-!
# Blank cells in charts

A chart does not tell a missing cell from an empty one (`Series.extract_congr`), and a cell of white
space has no number for it either.  In a header, however, white space counts as a text: it speaks
for headers when the texts of a line are counted, and where it heads a point it is the label.
Clearing blank cells therefore changes a chart just where it takes such a text away
(`Series.extract_of_clears`).
-/

namespace Spreadsheet

/-- A text of two parts is blank exactly when both parts are. -/
lemma Text.isBlank_append (s t : String) : isBlank (s ++ t) = (isBlank s && isBlank t) := by
  simp only [isBlank, String.toList_append, List.all_append]

namespace Series

variable {cells cells' : Snapshot}

/-! ## Missing and empty cells -/

/-- The number at an address, where a missing cell counts as an empty one. -/
lemma numberAt_eq (a : Address) :
    numberAt cells a = (Number.ofCellText? ((cells a).getD "")).getD .zero := by
  have hempty : Number.ofCellText? "" = none := Number.ofCellText?_of_isBlank rfl
  unfold numberAt
  cases cells a with
  | none => rw [Option.getD_none, hempty]; rfl
  | some s => rfl

/-- The texts in a line are those that are not empty, where a missing cell counts as an empty one.
-/
lemma textsAt_eq (addresses : List Address) :
    textsAt cells addresses = (addresses.map fun a => (cells a).getD "").filter (· ≠ "") := by
  unfold textsAt
  induction addresses with
  | nil => rfl
  | cons a addresses ih =>
    cases hcell : cells a with
    | none => simpa [hcell] using ih
    | some s => simp only [List.filterMap_cons, hcell, List.map_cons, Option.getD_some,
        List.filter_cons, ih]

/-- A label is the text of its cell unless this is empty, where a missing cell counts as an empty
one. -/
lemma label_eq (a : Address) (otherwise : String) : label cells a otherwise =
    if (cells a).getD "" = "" then otherwise else (cells a).getD "" := by
  unfold label
  cases cells a with
  | none => rfl
  | some s => rfl

/-- A chart does not tell a missing cell from an empty one. -/
lemma extract_congr (h : ∀ a, (cells a).getD "" = (cells' a).getD "") (r : Range) :
    extract cells r = extract cells' r := by
  have hnumber : numberAt cells = numberAt cells' := by
    funext a
    rw [numberAt_eq, numberAt_eq, h]
  have htexts : textsAt cells = textsAt cells' := by
    funext addresses
    simp only [textsAt_eq, h]
  have hlabel : label cells = label cells' := by
    funext a otherwise
    rw [label_eq, label_eq, h]
  unfold extract points rowPoint columnPoint cellPoint hasRowHeaders hasColumnHeaders areHeaders
    sumAt
  rw [hnumber, htexts, hlabel]

/-! ## Kinds of texts in a line -/

/-- The numeric texts at some addresses. -/
def numeralsAt (cells : Snapshot) (line : List Address) : List String :=
  (textsAt cells line).filter fun s => (Number.ofCellText? s).isSome

/-- The texts at some addresses that are neither numeric nor white space. -/
def wordsAt (cells : Snapshot) (line : List Address) : List String :=
  (textsAt cells line).filter fun s => (Number.ofCellText? s).isNone && !Text.isBlank s

/-- The texts at some addresses that are white space, and not empty. -/
def spacesAt (cells : Snapshot) (line : List Address) : List String :=
  (textsAt cells line).filter Text.isBlank

/-- Every text counts once: as numeric, as white space or as another one. -/
lemma length_textsAt (cells : Snapshot) (line : List Address) :
    (textsAt cells line).length = (numeralsAt cells line).length +
        ((wordsAt cells line).length + (spacesAt cells line).length) ∧
      ((textsAt cells line).filter fun s => (Number.ofCellText? s).isNone).length =
        (wordsAt cells line).length + (spacesAt cells line).length := by
  unfold numeralsAt wordsAt spacesAt
  induction textsAt cells line with
  | nil => exact ⟨rfl, rfl⟩
  | cons s texts ih =>
    obtain ⟨hall, hnone⟩ := ih
    by_cases hblank : Text.isBlank s = true
    · have hs := Number.ofCellText?_of_isBlank hblank
      simp only [List.filter_cons, hs, hblank, Option.isSome_none, Option.isNone_none,
        Bool.not_true, Bool.and_false, if_true, Bool.false_eq_true, if_false, List.length_cons]
      omega
    · cases hs : Number.ofCellText? s <;>
        simp only [List.filter_cons, hs, hblank, Option.isSome_none, Option.isNone_none,
          Option.isSome_some, Option.isNone_some, Bool.not_false, Bool.and_true, if_true,
          Bool.false_eq_true, if_false, List.length_cons] <;>
        omega

/-- A line holds headers when its words and its white space outnumber its numbers. -/
lemma areHeaders_iff {line : List Address} : areHeaders cells line = true ↔
    (numeralsAt cells line).length <
      (wordsAt cells line).length + (spacesAt cells line).length := by
  obtain ⟨hall, hnone⟩ := length_textsAt cells line
  rw [areHeaders, decide_eq_true_iff, hall, hnone]
  omega

/-! ## Clearing blank cells -/

/-- The second snapshot is the first one without some of its blank cells. -/
def Clears (cells cells' : Snapshot) : Prop :=
  ∀ a, cells' a = cells a ∨ cells' a = none ∧ ∃ s, cells a = some s ∧ Text.isBlank s = true

/-- The cell at an address is cleared, and held white space rather than the empty text. -/
def ClearsSpace (cells cells' : Snapshot) (a : Address) : Prop :=
  cells' a = none ∧ ∃ s, cells a = some s ∧ s ≠ "" ∧ Text.isBlank s = true

/-- The cells that are not blank. -/
def clearBlanks (cells : Snapshot) : Snapshot :=
  fun a => (cells a).filter fun s => !Text.isBlank s

/-- Dropping the blank cells clears blank cells and leaves all others. -/
lemma clears_clearBlanks (cells : Snapshot) : Clears cells (clearBlanks cells) := by
  intro a
  unfold clearBlanks
  cases cells a with
  | none => exact .inl rfl
  | some s =>
    cases hblank : Text.isBlank s with
    | true => exact .inr ⟨by simp [hblank], s, rfl, hblank⟩
    | false => exact .inl (by simp [hblank])

section Clears

variable {a : Address} {line : List Address} {r : Range}

/-- No number goes with the cells that are cleared: white space reads as none. -/
lemma Clears.numberAt (h : Clears cells cells') (a : Address) :
    numberAt cells' a = numberAt cells a := by
  unfold Series.numberAt
  rcases h a with heq | ⟨hnone, s, hs, hblank⟩
  · rw [heq]
  · rw [hnone, hs, Option.bind_none, Option.bind_some, Number.ofCellText?_of_isBlank hblank]

/-- Sums stay what they are when blank cells are cleared. -/
lemma Clears.sumAt (h : Clears cells cells') : sumAt cells' = sumAt cells := by
  funext addresses
  unfold Series.sumAt
  rw [funext h.numberAt]

/-- Texts of a kind that no white space is of are not cleared. -/
lemma Clears.filter_textsAt (h : Clears cells cells') {kind : String → Bool}
    (hkind : ∀ s, Text.isBlank s = true → kind s = false) (line : List Address) :
    (textsAt cells' line).filter kind = (textsAt cells line).filter kind := by
  unfold textsAt
  induction line with
  | nil => rfl
  | cons a line ih =>
    rcases h a with heq | ⟨hnone, s, hs, hblank⟩
    · simp only [List.filterMap_cons, heq]
      cases cells a with
      | none => exact ih
      | some s => simp only [List.filter_cons, apply_ite (List.filter kind), ih]
    · simp only [List.filterMap_cons, hnone, hs, List.filter_cons]
      split
      · rw [List.filter_cons, hkind s hblank]
        exact ih
      · exact ih

/-- Clearing removes blank texts only, so the numeric texts along a line are the same before and
after. -/
lemma Clears.numeralsAt (h : Clears cells cells') (line : List Address) :
    numeralsAt cells' line = numeralsAt cells line := by
  refine h.filter_textsAt (fun s hblank => ?_) line
  rw [Number.ofCellText?_of_isBlank hblank, Option.isSome_none]

/-- The texts of a line that are neither numeric nor white space are not cleared. -/
lemma Clears.wordsAt (h : Clears cells cells') (line : List Address) :
    wordsAt cells' line = wordsAt cells line := by
  refine h.filter_textsAt (fun s hblank => ?_) line
  rw [hblank, Bool.not_true, Bool.and_false]

/-- The white space that is left in a line was there before, in the same order. -/
lemma Clears.spacesAt (h : Clears cells cells') (line : List Address) :
    (spacesAt cells' line).Sublist (spacesAt cells line) := by
  unfold Series.spacesAt textsAt
  refine .filter _ (.filter _ ?_)
  induction line with
  | nil => exact .slnil
  | cons a line ih =>
    rcases h a with heq | ⟨hnone, s, hs, -⟩
    · simp only [List.filterMap_cons, heq]
      cases cells a with
      | none => exact ih
      | some s => exact ih.cons_cons s
    · simp only [List.filterMap_cons, hnone, hs]
      exact ih.cons s

/-- Where no white space is cleared, the cell shows the text that it did. -/
lemma Clears.getD_eq (h : Clears cells cells') (ha : ¬ClearsSpace cells cells' a) :
    (cells' a).getD "" = (cells a).getD "" := by
  rcases h a with heq | ⟨hnone, s, hs, hblank⟩
  · rw [heq]
  · have hempty : s = "" := by
      by_contra hne
      exact ha ⟨hnone, s, hs, hne, hblank⟩
    rw [hnone, hs, hempty]
    rfl

/-- A line is taken for headers as before if no white space is cleared in it. -/
lemma Clears.areHeaders_eq (h : Clears cells cells')
    (hline : ∀ a ∈ line, ¬ClearsSpace cells cells' a) :
    areHeaders cells' line = areHeaders cells line := by
  have htexts : textsAt cells' line = textsAt cells line := by
    rw [textsAt_eq, textsAt_eq, List.map_congr_left fun a ha => h.getD_eq (hline a ha)]
  simp only [areHeaders, htexts]

/-- A label stays the same exactly if no white space is cleared where it stands. -/
lemma Clears.label_eq_iff (h : Clears cells cells') {otherwise : String}
    (hotherwise : Text.isBlank otherwise = false) :
    label cells' a otherwise = label cells a otherwise ↔ ¬ClearsSpace cells cells' a := by
  constructor
  · rintro heq ⟨hnone, s, hs, hne, hblank⟩
    rw [label_eq, label_eq, hnone, hs, Option.getD_none, Option.getD_some, if_pos rfl,
      if_neg hne] at heq
    rw [heq, hblank] at hotherwise
    cases hotherwise
  · intro ha
    rw [label_eq, label_eq, h.getD_eq ha]

end Clears

/-! ## Points -/

/-- The points with a value other than zero. -/
def nonzero (points : List Point) : List Point :=
  points.filter fun p => !p.value.isZero

/-- The cells that head the points with a value other than zero. -/
def headsOf (head : Index → Address) (point : Index → Point) (is : List Index) : List Address :=
  (is.filter fun i => !(point i).value.isZero).map head

/-- The header cells that label what is extracted. -/
def labelCells (cells : Snapshot) (r : Range) : List Address :=
  match hasRowHeaders cells r, hasColumnHeaders cells r with
  | true, true => headsOf (fun row => ⟨row, r.first.column⟩) (rowPoint cells r) r.rows.tail
  | true, false => headsOf (fun row => ⟨row, r.first.column⟩) (rowPoint cells r) r.rows
  | false, true => headsOf (fun column => ⟨r.first.row, column⟩) (columnPoint cells r) r.columns
  | false, false => []

section Points

variable {r : Range} {is : List Index} {point point' : Index → Point}

/-- Of points with the same values the same are left if their names agree. -/
lemma nonzero_map_eq_iff (hvalue : ∀ i, (point' i).value = (point i).value) :
    nonzero (is.map point') = nonzero (is.map point) ↔
      ∀ i ∈ is, (point i).value.isZero = false → (point' i).name = (point i).name := by
  induction is with
  | nil => simp
  | cons i is ih =>
    have hpoint : point' i = point i ↔ (point' i).name = (point i).name := by
      rw [Point.mk.injEq, and_iff_left (hvalue i)]
    unfold nonzero at ih ⊢
    rw [List.forall_mem_cons, ← ih, List.map_cons, List.map_cons, List.filter_cons,
      List.filter_cons, hvalue i]
    cases (point i).value.isZero with
    | true => simp
    | false => simp [hpoint]

/-- Labelled points stay the same exactly if no white space is cleared that labels one of them. -/
lemma Clears.nonzero_map_eq_iff (h : Clears cells cells') {head : Index → Address}
    (otherwise : Index → String) (hotherwise : ∀ i, Text.isBlank (otherwise i) = false)
    (hname : ∀ i, (point i).name = label cells (head i) (otherwise i))
    (hname' : ∀ i, (point' i).name = label cells' (head i) (otherwise i))
    (hvalue : ∀ i, (point' i).value = (point i).value) :
    nonzero (is.map point') = nonzero (is.map point) ↔
      ∀ a ∈ headsOf head point is, ¬ClearsSpace cells cells' a := by
  rw [Series.nonzero_map_eq_iff hvalue, headsOf]
  simp only [hname, hname', h.label_eq_iff (hotherwise _), List.forall_mem_map, List.mem_filter,
    Bool.not_eq_true', and_imp]

/-- The points of the rows stay the same exactly if no white space is cleared that labels one of
them. -/
lemma Clears.rowPoints_eq_iff (h : Clears cells cells') (is : List Index) :
    nonzero (is.map (rowPoint cells' r)) = nonzero (is.map (rowPoint cells r)) ↔
      ∀ a ∈ headsOf (fun row => ⟨row, r.first.column⟩) (rowPoint cells r) is,
        ¬ClearsSpace cells cells' a := by
  refine h.nonzero_map_eq_iff (fun row => s!"Row {row.val}") (fun row => ?_) (fun _ => rfl)
    (fun _ => rfl) fun row => ?_
  · exact Text.isBlank_append "Row " (toString row.val)
  · simp only [rowPoint, h.sumAt]

/-- The points of the columns stay the same exactly if no white space is cleared that labels one of
them. -/
lemma Clears.columnPoints_eq_iff (h : Clears cells cells') (is : List Index) :
    nonzero (is.map (columnPoint cells' r)) = nonzero (is.map (columnPoint cells r)) ↔
      ∀ a ∈ headsOf (fun column => ⟨r.first.row, column⟩) (columnPoint cells r) is,
        ¬ClearsSpace cells cells' a := by
  refine h.nonzero_map_eq_iff (fun column => "Col " ++ Column.name column) (fun column => ?_)
    (fun _ => rfl) (fun _ => rfl) fun column => ?_
  · exact Text.isBlank_append "Col " (Column.name column)
  · simp only [columnPoint, h.sumAt]

/-- Where the headers are the same, clearing changes what is extracted just by a label that was
white space. -/
lemma Clears.extract_eq_iff (h : Clears cells cells')
    (hrows : hasRowHeaders cells' r = hasRowHeaders cells r)
    (hcolumns : hasColumnHeaders cells' r = hasColumnHeaders cells r) :
    extract cells' r = extract cells r ↔
      ∀ a ∈ labelCells cells r, ¬ClearsSpace cells cells' a := by
  unfold extract points labelCells
  rw [hrows, hcolumns]
  cases hasRowHeaders cells r with
  | true => cases hasColumnHeaders cells r <;> exact h.rowPoints_eq_iff _
  | false =>
    cases hasColumnHeaders cells r with
    | true => exact h.columnPoints_eq_iff _
    | false =>
      have hpoints : cellPoint cells' = cellPoint cells := by
        funext a
        rw [cellPoint, cellPoint, h.numberAt]
      simp only [hpoints, List.not_mem_nil, false_implies, implies_true]

/-- A label stands in the first row or in the first column. -/
lemma row_or_column_of_mem_labelCells {a : Address} (ha : a ∈ labelCells cells r) :
    a.row = r.first.row ∨ a.column = r.first.column := by
  unfold labelCells headsOf at ha
  split at ha
  case h_4 => cases ha
  all_goals
    obtain ⟨i, -, rfl⟩ := List.mem_map.mp ha
    simp

end Points

/-- Clearing blank cells changes no number and no sum.  In a line that may hold headers it takes
white space away, which counts like a word, so that words and the white space left have to
outnumber the numbers.  As long as the first row and the first column remain headers or remain none,
the chart changes exactly if white space is cleared that labels a point, and it stays the same if
in the first row and in the first column only empty cells are cleared. -/
theorem extract_of_clears (h : Clears cells cells') (r : Range) :
    (∀ a, numberAt cells' a = numberAt cells a) ∧
    (∀ line, (areHeaders cells line = true ↔ (numeralsAt cells line).length <
        (wordsAt cells line).length + (spacesAt cells line).length) ∧
      (areHeaders cells' line = true ↔ (numeralsAt cells line).length <
        (wordsAt cells line).length + (spacesAt cells' line).length) ∧
      (spacesAt cells' line).Sublist (spacesAt cells line)) ∧
    (hasRowHeaders cells' r = hasRowHeaders cells r →
      hasColumnHeaders cells' r = hasColumnHeaders cells r →
      (extract cells' r = extract cells r ↔
        ∀ a ∈ labelCells cells r, ¬ClearsSpace cells cells' a)) ∧
    ((∀ a, a.row = r.first.row ∨ a.column = r.first.column → ¬ClearsSpace cells cells' a) →
      extract cells' r = extract cells r) := by
  refine ⟨h.numberAt, fun line => ⟨areHeaders_iff, ?_, h.spacesAt line⟩,
    fun hrows hcolumns => h.extract_eq_iff hrows hcolumns, fun hkept => ?_⟩
  · rw [areHeaders_iff, h.numeralsAt, h.wordsAt]
  · have hrows : hasRowHeaders cells' r = hasRowHeaders cells r := by
      refine h.areHeaders_eq fun a ha => ?_
      obtain ⟨row, -, rfl⟩ := List.mem_map.mp ha
      exact hkept _ (.inr rfl)
    have hcolumns : hasColumnHeaders cells' r = hasColumnHeaders cells r := by
      refine h.areHeaders_eq fun a ha => ?_
      obtain ⟨column, -, rfl⟩ := List.mem_map.mp ha
      exact hkept _ (.inl rfl)
    exact (h.extract_eq_iff hrows hcolumns).mpr fun a ha =>
      hkept a (row_or_column_of_mem_labelCells ha)

/-- The empty cell above `north` and the white space behind it make no difference. -/
theorem extract_of_clears_empty :
    let a1 : Address := ⟨⟨1, by decide, by decide⟩, ⟨1, by decide, by decide⟩⟩
    let c2 : Address := ⟨⟨2, by decide, by decide⟩, ⟨3, by decide, by decide⟩⟩
    let cells : Snapshot := fun a => match a.row.val, a.column.val with
      | 1, 1 => some ""
      | 1, 2 => some "1"
      | 2, 1 => some "north"
      | 2, 2 => some "2"
      | 2, 3 => some " "
      | _, _ => none
    Clears cells (clearBlanks cells) ∧ clearBlanks cells a1 ≠ cells a1 ∧
      clearBlanks cells c2 ≠ cells c2 ∧
      (extract cells ⟨a1, c2⟩).map Point.name = ["Row 1", "north"] ∧
      extract (clearBlanks cells) ⟨a1, c2⟩ = extract cells ⟨a1, c2⟩ := by
  intro a1 c2 cells
  have hclears := clears_clearBlanks cells
  obtain ⟨-, -, hiff, -⟩ := extract_of_clears hclears ⟨a1, c2⟩
  have hlabels : labelCells cells ⟨a1, c2⟩ = [a1, ⟨c2.row, a1.column⟩] := by decide +kernel
  refine ⟨hclears, by decide, by decide, by decide +kernel, ?_⟩
  refine (hiff (by decide +kernel) (by decide +kernel)).mpr fun a ha => ?_
  rintro ⟨-, s, hs, hne, hblank⟩
  rw [hlabels] at ha
  rcases List.mem_cons.mp ha with rfl | ha
  · exact hne (Option.some.inj hs).symm
  · obtain rfl := List.mem_singleton.mp ha
    cases hs
    exact absurd hblank (by decide)

/-- The white space above `north` labels a row that would be called `Row 1` without it, and in the
first row alone it makes headers, so that the number beside it is not charted under its address. -/
theorem not_extract_eq_of_clears :
    let a1 : Address := ⟨⟨1, by decide, by decide⟩, ⟨1, by decide, by decide⟩⟩
    let b1 : Address := ⟨⟨1, by decide, by decide⟩, ⟨2, by decide, by decide⟩⟩
    let b2 : Address := ⟨⟨2, by decide, by decide⟩, ⟨2, by decide, by decide⟩⟩
    let cells : Snapshot := fun a => match a.row.val, a.column.val with
      | 1, 1 => some " "
      | 1, 2 => some "1"
      | 2, 1 => some "north"
      | 2, 2 => some "2"
      | _, _ => none
    let names (cells : Snapshot) (r : Range) := (extract cells r).map Point.name
    Clears cells (clearBlanks cells) ∧
      (names cells ⟨a1, b2⟩ = [" ", "north"] ∧
        names (clearBlanks cells) ⟨a1, b2⟩ = ["Row 1", "north"] ∧
        extract (clearBlanks cells) ⟨a1, b2⟩ ≠ extract cells ⟨a1, b2⟩) ∧
      (hasRowHeaders cells ⟨a1, b1⟩ = true ∧ hasRowHeaders (clearBlanks cells) ⟨a1, b1⟩ = false ∧
        names cells ⟨a1, b1⟩ = [" "] ∧ names (clearBlanks cells) ⟨a1, b1⟩ = ["B1"]) := by
  intro a1 b1 b2 cells names
  refine ⟨clears_clearBlanks cells, ⟨by decide +kernel, by decide +kernel, by decide +kernel⟩,
    by decide +kernel, by decide +kernel, by decide +kernel, by decide +kernel⟩

end Series

end Spreadsheet
