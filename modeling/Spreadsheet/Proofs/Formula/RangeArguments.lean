import Spreadsheet.Formula.Function
import Spreadsheet.Proofs.Grid.Enumeration

/-!
# Ranges as arguments

A range among the arguments of a function stands for its cells, row by row.  Only `IF` takes it for
itself: to every other function the cells can be given one by one instead, in the place of the
range (`Formula.apply_of_unrolls`).  The function then collects the same numbers in the same order,
so that a sum is rounded as before, and joins the same texts.
-/

namespace Spreadsheet

/-! ## The cells of a range in order -/

/-- The list names the cells between the corners of a range, each once: row by row, and from left
to right within a row. -/
structure Range.RowMajor (r : Range) (as : List Address) : Prop where
  mem_iff : ∀ a, a ∈ as ↔ (r.first.row.val ≤ a.row.val ∧ a.row.val ≤ r.last.row.val) ∧
    r.first.column.val ≤ a.column.val ∧ a.column.val ≤ r.last.column.val
  ordered : as.Pairwise fun a b =>
    a.row.val < b.row.val ∨ a.row = b.row ∧ a.column.val < b.column.val

/-- Only one list names the cells of a range in order. -/
lemma Range.rowMajor_iff {r : Range} {as : List Address} : r.RowMajor as ↔ as = r.cells := by
  have hcells : r.RowMajor r.cells :=
    ⟨fun _ => mem_cells, r.pairwise_cells.imp Address.compare_eq_lt_iff.mp⟩
  have hnodup : ∀ {bs}, r.RowMajor bs → bs.Nodup := by
    intro bs hbs
    refine hbs.ordered.imp fun {a b} hlt => ?_
    rintro rfl
    omega
  constructor
  · intro has
    have hperm : as.Perm r.cells := (List.perm_ext_iff_of_nodup (hnodup has) (hnodup hcells)).mpr
      fun a => (has.mem_iff a).trans (hcells.mem_iff a).symm
    refine hperm.eq_of_pairwise (fun a b _ _ hab hba => ?_) has.ordered hcells.ordered
    rw [← Index.val_inj] at hab hba
    omega
  · rintro rfl
    exact hcells

namespace Formula

/-! ## Unrolling -/

/-- Some ranges of a list of arguments are replaced by references to their cells, in place. -/
inductive Unrolls : List Argument → List Argument → Prop
  | nil : Unrolls [] []
  | keep (arg : Argument) {args args' : List Argument} (h : Unrolls args args') :
      Unrolls (arg :: args) (arg :: args')
  | unroll {r : Range} {as : List Address} (has : r.RowMajor as) {args args' : List Argument}
      (h : Unrolls args args') : Unrolls (.range r :: args) (as.map .cell ++ args')

section Unrolls

variable {cells : Snapshot} {args args' : List Argument}

/-- A range contributes the numbers of its cells. -/
lemma flatMap_numbers_cells (cells : Snapshot) (r : Range) :
    (r.cells.map Argument.cell).flatMap (Argument.numbers cells) =
      (Argument.range r).numbers cells := by
  rw [List.flatMap_map, Argument.numbers, List.filterMap_eq_flatMap_toList]
  rfl

/-- Texts that are joined behind another text may be joined on their own first. -/
lemma foldl_append_eq {α : Type} (text : α → String) (xs : List α) (s : String) :
    xs.foldl (fun s x => s ++ text x) s = s ++ xs.foldl (fun s x => s ++ text x) "" := by
  induction xs generalizing s with
  | nil => exact String.append_empty.symm
  | cons x xs ih => rw [List.foldl_cons, List.foldl_cons, ih, ih ("" ++ text x),
      String.empty_append, String.append_assoc]

/-- The cells of a range, each joined on its own, give the text that the range gives as a whole. -/
lemma foldl_joined_cells (cells : Snapshot) (r : Range) (s : String) :
    (r.cells.map Argument.cell).foldl (fun s arg => s ++ arg.joined cells) s =
      s ++ (Argument.range r).joined cells := by
  rw [List.foldl_map]
  exact foldl_append_eq (fun a => (cells.content a).joined) r.cells s

/-- Unrolled ranges give the same numbers in the same order. -/
lemma Unrolls.flatMap_numbers (h : Unrolls args args') :
    args'.flatMap (Argument.numbers cells) = args.flatMap (Argument.numbers cells) := by
  induction h with
  | nil => rfl
  | keep arg _ ih => rw [List.flatMap_cons, List.flatMap_cons, ih]
  | @unroll r as has _ _ _ ih =>
    rw [Range.rowMajor_iff.mp has, List.flatMap_append, List.flatMap_cons, flatMap_numbers_cells,
      ih]

/-- Arguments are joined to the same text when their ranges are unrolled into cells. -/
lemma Unrolls.foldl_joined (h : Unrolls args args') (s : String) :
    args'.foldl (fun s arg => s ++ arg.joined cells) s =
      args.foldl (fun s arg => s ++ arg.joined cells) s := by
  induction h generalizing s with
  | nil => rfl
  | keep arg _ ih => exact ih _
  | @unroll r as has _ _ _ ih =>
    rw [Range.rowMajor_iff.mp has, List.foldl_append, List.foldl_cons, foldl_joined_cells, ih]

end Unrolls

/-- References to the cells of ranges, row by row in the place of the ranges, give every function
but `IF` what the ranges gave it: the same numbers in the same order, and the same result. -/
theorem apply_of_unrolls (cells : Snapshot) {args args' : List Argument}
    (h : Unrolls args args') :
    args'.flatMap (Argument.numbers cells) = args.flatMap (Argument.numbers cells) ∧
      ∀ f : Function, f ≠ .choose → f.apply cells args' = f.apply cells args := by
  refine ⟨h.flatMap_numbers, fun f hf => ?_⟩
  cases f with
  | choose => exact absurd rfl hf
  | concatenate => simp only [Function.apply, h.foldl_joined]
  | sum | average | count | max | min => simp only [Function.apply, h.flatMap_numbers]

/-- A square of cells whose sum depends on the order, a single cell and a reversed range. -/
theorem apply_of_unrolls_square :
    let a1 : Address := ⟨⟨1, by decide, by decide⟩, ⟨1, by decide, by decide⟩⟩
    let b1 : Address := ⟨⟨1, by decide, by decide⟩, ⟨2, by decide, by decide⟩⟩
    let a2 : Address := ⟨⟨2, by decide, by decide⟩, ⟨1, by decide, by decide⟩⟩
    let b2 : Address := ⟨⟨2, by decide, by decide⟩, ⟨2, by decide, by decide⟩⟩
    let cells : Snapshot := fun a =>
      if a = a1 then some "0.1" else if a = b1 then some "0.2"
      else if a = a2 then some "x" else if a = b2 then some "-0.3" else none
    let args : List Argument :=
      [.text "5", .range ⟨a1, b2⟩, .cell b1, .range ⟨b2, a1⟩, .range ⟨a2, a2⟩]
    let args' : List Argument :=
      [.text "5", .cell a1, .cell b1, .cell a2, .cell b2, .cell b1, .cell a2]
    Unrolls args args' ∧ Function.concatenate.apply cells args' = .text "50.10.2x-0.30.2x" ∧
      Function.concatenate.apply cells args = .text "50.10.2x-0.30.2x" ∧
      Function.sum.apply cells [.range ⟨b2, a1⟩] = Function.sum.apply cells [] ∧
      Function.sum.apply cells args' = Function.sum.apply cells args ∧
      Function.sum.apply cells args' ≠
        Function.sum.apply cells [.cell b2, .cell a1, .cell b1, .cell b1] := by
  intro a1 b1 a2 b2 cells args args'
  have hsquare : Range.RowMajor ⟨a1, b2⟩ [a1, b1, a2, b2] :=
    Range.rowMajor_iff.mpr (by decide +kernel)
  have hreversed : Range.RowMajor ⟨b2, a1⟩ [] := Range.rowMajor_iff.mpr (by decide +kernel)
  have hsingle : Range.RowMajor ⟨a2, a2⟩ [a2] := Range.rowMajor_iff.mpr (by decide +kernel)
  have hargs : Unrolls args args' :=
    .keep _ (.unroll hsquare (.keep _ (.unroll hreversed (.unroll hsingle .nil))))
  obtain ⟨-, happly⟩ := apply_of_unrolls cells hargs
  obtain ⟨-, hnone⟩ := apply_of_unrolls cells (.unroll hreversed .nil)
  have hjoined : Function.concatenate.apply cells args' = .text "50.10.2x-0.30.2x" := by
    decide +kernel
  exact ⟨hargs, hjoined, (happly _ (by decide)).symm.trans hjoined, (hnone _ (by decide)).symm,
    happly _ (by decide), by decide +kernel⟩

end Formula

end Spreadsheet
