/-!
# Column and row numbers

The grid has as many columns as rows, and both are counted from one.
-/

namespace Spreadsheet

/-- The largest column or row number. -/
def gridSide : Nat := 4294967295

/-- A column or row number of the grid. -/
structure Index where
  val : Nat
  pos : 0 < val
  le_side : val ≤ gridSide
deriving DecidableEq

namespace Index

/-- The index with a given number, if the grid has it. -/
def ofNat? (n : Nat) : Option Index :=
  if h : 0 < n ∧ n ≤ gridSide then some ⟨n, h.1, h.2⟩ else none

/-- The index `delta` further on, if the grid has it. -/
def shift? (i : Index) (delta : Int) : Option Index :=
  ofNat? (i.val + delta).toNat

/-- The indices from `first` to `last`, both included, in increasing order. -/
def interval (first last : Index) : List Index :=
  (List.range' first.val (last.val + 1 - first.val)).filterMap ofNat?

/-- An index is told by its number: the bounds that it carries are proofs. -/
theorem val_injective {i j : Index} (h : i.val = j.val) : i = j := by
  cases i; cases j; simp_all

@[simp] theorem val_inj {i j : Index} : i.val = j.val ↔ i = j :=
  ⟨val_injective, congrArg val⟩

/-- A number is the number of an index exactly when it is in the range of indices, and of one index
only. -/
theorem ofNat?_eq_some_iff {n : Nat} {i : Index} : ofNat? n = some i ↔ i.val = n := by
  unfold ofNat?
  split
  · simp [← val_inj, eq_comm]
  · rename_i h
    simp only [reduceCtorEq, false_iff]
    rintro rfl
    exact h ⟨i.pos, i.le_side⟩

/-- The number of an index gives the index again, since it lies between one and the largest word. -/
@[simp] theorem ofNat?_val (i : Index) : ofNat? i.val = some i :=
  ofNat?_eq_some_iff.2 rfl

/-- An index can be moved exactly when the sum is the number of an index, as an exact sum of whole
numbers: no overflow is taken for a place. -/
theorem shift?_eq_some_iff {i j : Index} {delta : Int} :
    i.shift? delta = some j ↔ (j.val : Int) = i.val + delta := by
  have := j.pos
  simp only [shift?, ofNat?_eq_some_iff]
  omega

/-- An interval holds the indices between its ends, and none when the ends are reversed. -/
@[simp] theorem mem_interval {first last i : Index} :
    i ∈ interval first last ↔ first.val ≤ i.val ∧ i.val ≤ last.val := by
  simp only [interval, List.mem_filterMap, List.mem_range'_1, ofNat?_eq_some_iff]
  constructor
  · rintro ⟨n, h, rfl⟩
    omega
  · rintro h
    exact ⟨i.val, by omega, rfl⟩

end Index

end Spreadsheet
