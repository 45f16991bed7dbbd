import Mathlib.Order.Bounds.Basic
import Spreadsheet.Proofs.Formula.ShiftScan
import Spreadsheet.Proofs.Grid.Enumeration
import Spreadsheet.Proofs.Sheet.Effects

/-!
# What holds of every sheet that requests lead to

`Sheet.Invariant` says of a sheet that all its formulas, stored or on the clipboard, start with an
equals sign, and that no address was captured twice.  Each change keeps this
(`Sheet.Invariant.of_changes`): the formulas that a request leaves in its footprint were committed,
stored or captured, and moving a formula along keeps its first character
(`Sheet.isFormula_shifted`).

The main result, `Sheet.invariants_run`, is that the invariant holds after every run of requests on
an empty sheet, and adds how the sheet is looked at as a whole: the stored cells are listed once
each and row by row, and the extent is the least one that bounds them.
-/

namespace Spreadsheet

namespace Sheet

variable {s next : Sheet} {a : Address}

/-! ## Formulas that are moved -/

/-- A formula that is moved along keeps the equals sign in front, and no other text gets one. -/
lemma isFormula_shifted (shift : Formula.Shift) (f : String) :
    isFormula (Formula.shifted shift f) = isFormula f := by
  unfold Formula.shifted
  split
  · rfl
  · have hhead : '=' ∈ (shift.apply f.toList).head? ↔ '=' ∈ f.toList.head? :=
      Formula.Shift.mem_head?_move (by decide) (by decide) f.toList
    unfold isFormula
    rw [String.toList_ofList, Bool.eq_iff_iff, beq_iff_eq, beq_iff_eq]
    exact hhead

/-! ## Captured cells -/

/-- No address is left twice among the distinct ones. -/
lemma nodup_eraseDups (addresses : List Address) : addresses.eraseDups.Nodup := by
  match addresses with
  | [] => exact List.nodup_nil
  | a :: others =>
    rw [List.eraseDups_cons, List.nodup_cons]
    refine ⟨?_, nodup_eraseDups _⟩
    simp [List.mem_eraseDups]
termination_by addresses.length
decreasing_by exact Nat.lt_succ_of_le (List.length_filter_le _ _)

/-- Captured are the cells that are found at the addresses, each with its address. -/
lemma mem_capture_iff {addresses : List Address} {captured : Address × Cell} :
    captured ∈ s.capture addresses ↔
      captured.1 ∈ addresses ∧ s.cell? captured.1 = some captured.2 := by
  obtain ⟨a, c⟩ := captured
  simp only [capture, List.mem_filterMap, List.mem_eraseDups, Option.map_eq_some_iff,
    Prod.mk.injEq]
  constructor
  · rintro ⟨b, hmem, d, hcell, rfl, rfl⟩
    exact ⟨hmem, hcell⟩
  · rintro ⟨hmem, hcell⟩
    exact ⟨a, hmem, c, hcell, rfl, rfl⟩

/-- The captured addresses are the stored ones among those asked for. -/
lemma map_fst_capture (s : Sheet) (addresses : List Address) :
    (s.capture addresses).map Prod.fst =
      addresses.eraseDups.filter fun a => (s.cell? a).isSome := by
  rw [capture, List.map_filterMap, ← List.filterMap_eq_filter]
  congr 1
  funext a
  cases hcell : s.cell? a <;> simp [Option.guard, hcell]

/-- Addresses that are asked for twice are captured once. -/
lemma nodup_capture (s : Sheet) (addresses : List Address) :
    ((s.capture addresses).map Prod.fst).Nodup := by
  rw [map_fst_capture]
  exact (nodup_eraseDups addresses).filter _

/-! ## The invariant -/

/-- All formulas start with an equals sign, and captured addresses are distinct. -/
structure Invariant (s : Sheet) : Prop where
  formula : ∀ a f, s.formula? a = some f → isFormula f = true
  captured_formula : ∀ board ∈ s.clipboard, ∀ captured ∈ board.cells,
    ∀ f ∈ captured.2.formula, isFormula f = true
  captured_nodup : ∀ board ∈ s.clipboard, (board.cells.map Prod.fst).Nodup

/-- An empty sheet keeps every invariant: there is no cell and nothing on the clipboard. -/
lemma invariant_empty (limits : Limits) : ({ limits } : Sheet).Invariant where
  formula a f hf := by
    have hnone : ({ limits } : Sheet).formula? a = none := by
      rw [formula?, cell?, Std.ExtTreeMap.getElem?_empty]
      rfl
    rw [hnone] at hf
    cases hf
  captured_formula board hboard := by cases hboard
  captured_nodup board hboard := by cases hboard

/-- A cell that gets another value keeps its formula. -/
lemma Revalued.formula_eq {c d : Option Cell} (h : Revalued c d) :
    d.bind Cell.formula = c.bind Cell.formula := by
  cases h with
  | same => rfl
  | value => rfl

/-- A formula that is pasted was captured, and may have been moved along. -/
lemma Pastes.formula {target : Address} {adjust : Bool} {c : Cell} {f : String}
    (h : s.Pastes target adjust a c) (hf : c.formula = some f) :
    ∃ board ∈ s.clipboard, ∃ captured ∈ board.cells, ∃ g ∈ captured.2.formula,
      f = g ∨ ∃ shift, f = Formula.shifted shift g := by
  obtain ⟨kind, anchor, cell, others, hclipboard, captured, hmem, hplaced⟩ := h
  refine ⟨_, hclipboard, captured, hmem, ?_⟩
  obtain ⟨b, -, heq⟩ := Option.map_eq_some_iff.mp hplaced
  obtain ⟨-, rfl⟩ := Prod.mk.inj heq
  cases adjust with
  | false => exact ⟨f, hf, .inl rfl⟩
  | true =>
    obtain ⟨g, hg, hshifted⟩ := Option.map_eq_some_iff.mp hf
    exact ⟨g, hg, .inr ⟨_, hshifted.symm⟩⟩

/-- What is left in a footprint as a formula starts with an equals sign. -/
lemma Invariant.of_leaves {request : Step} {after : Option Cell} {f : String} (h : s.Invariant)
    (hwrites : s.Writes a request) (hleaves : s.Leaves a after request)
    (hf : after.bind Cell.formula = some f) : isFormula f = true := by
  cases request with
  | commit spot input =>
    obtain ⟨value, rfl⟩ := hleaves
    obtain ⟨hinput, rfl⟩ : isFormula input = true ∧ input = f := by simpa using hf
    exact hinput
  | resubmit spot =>
    rw [hleaves.formula_eq] at hf
    exact h.formula a f hf
  | clear spot | cut spots =>
    obtain rfl : after = none := hleaves
    cases hf
  | restyle spot patch =>
    obtain ⟨style, rfl⟩ := hleaves
    refine h.formula a f ?_
    unfold formula?
    cases hcell : s.cell? a with
    | none =>
      rw [hcell] at hf
      cases hf
    | some c =>
      rw [hcell] at hf
      exact hf
  | paste spot adjust =>
    obtain ⟨target, c, -, hpastes, hrevalued, -⟩ := hleaves
    rw [hrevalued.formula_eq] at hf
    obtain ⟨board, hboard, captured, hmem, g, hg, rfl | ⟨shift, rfl⟩⟩ := hpastes.formula hf
    · exact h.captured_formula board hboard captured hmem _ hg
    · rw [isFormula_shifted]
      exact h.captured_formula board hboard captured hmem g hg
  | importBytes bytes | importFile path files =>
    obtain ⟨value, rfl⟩ := hleaves
    cases hf
  | _ => exact absurd hwrites id

/-- Formulas are captured as they are stored, so every captured one starts like a formula. -/
lemma Invariant.capture (h : s.Invariant) {addresses : List Address} {captured : Address × Cell}
    (hmem : captured ∈ s.capture addresses) {f : String} (hf : f ∈ captured.2.formula) :
    isFormula f = true := by
  refine h.formula captured.1 f ?_
  rw [formula?, (mem_capture_iff.mp hmem).2]
  exact hf

/-- A clipboard that was not filled by the request is the one from before. -/
lemma LeavesClipboard.cases {request : Step} {after : Option Clipboard}
    (h : s.LeavesClipboard after request) {board : Clipboard} (hboard : board ∈ after) :
    (∃ addresses, board.cells = s.capture addresses) ∨ board ∈ s.clipboard := by
  cases request with
  | copy spots | cut spots =>
    obtain ⟨addresses, -, rfl⟩ := h
    cases hboard
    exact .inl ⟨addresses, rfl⟩
  | paste spot adjust =>
    obtain rfl : after = _ := h
    exact .inr (Option.mem_filter_iff.mp hboard).1
  | _ =>
    obtain rfl : after = s.clipboard := h
    exact .inr hboard

/-- Every change that a step can make keeps the invariant. This is the step of the induction over
runs. -/
lemma Invariant.of_changes {request : Step} (h : s.Invariant) (hchanges : s.Changes request next) :
    next.Invariant where
  formula a f hf := by
    have hfootprint := hchanges.footprint
    by_cases hwrites : s.Writes a request
    · exact h.of_leaves hwrites (hfootprint.inside a hwrites) hf
    · rw [formula?, hfootprint.outside a hwrites] at hf
      exact h.formula a f hf
  captured_formula board hboard captured hmem f hf := by
    rcases hchanges.leavesClipboard.cases hboard with ⟨addresses, hcells⟩ | hbefore
    · rw [hcells] at hmem
      exact h.capture hmem hf
    · exact h.captured_formula board hbefore captured hmem f hf
  captured_nodup board hboard := by
    rcases hchanges.leavesClipboard.cases hboard with ⟨addresses, hcells⟩ | hbefore
    · rw [hcells]
      exact s.nodup_capture addresses
    · exact h.captured_nodup board hbefore

/-- Every request keeps the invariants, whether it is carried out or refused. -/
lemma Invariant.step (h : s.Invariant) (request : Step) : (s.step request).1.Invariant := by
  rcases s.step_cases request with hchanges | hsame
  · exact h.of_changes hchanges
  · rw [hsame]
    exact h

/-- The invariants hold throughout a run that starts with them. -/
lemma Invariant.run (h : s.Invariant) (requests : List Step) : (s.run requests).Invariant := by
  induction requests generalizing s with
  | nil => exact h
  | cons request requests ih => exact ih (h.step request)

/-! ## The sheet as a whole -/

/-- The stored cells are listed row by row, and from left to right within a row. -/
lemma pairwise_toList (s : Sheet) : s.toList.Pairwise fun x y =>
    x.1.row.val < y.1.row.val ∨ x.1.row = y.1.row ∧ x.1.column.val < y.1.column.val := by
  have hordered : s.toList.Pairwise fun x y => compare x.1 y.1 = .lt :=
    Std.ExtTreeMap.ordered_keys_toList
  exact hordered.imp Address.compare_eq_lt_iff.mp

/-- Only a sheet without any cell has no extent. -/
lemma extent?_eq_none_iff : s.extent? = none ↔ s.cells.isEmpty = true := by
  rw [← Std.ExtTreeMap.isEmpty_toList, List.isEmpty_iff]
  rcases s.extent?_cases with ⟨hextent, hnone⟩ | ⟨columns, rows, hextent, hbounds⟩
  · refine iff_of_true hextent (List.eq_nil_iff_forall_not_mem.mpr fun ⟨a, c⟩ hmem => ?_)
    have hcell := mem_toList_iff.mp hmem
    rw [hnone a] at hcell
    cases hcell
  · refine iff_of_false (by rw [hextent]; exact Option.some_ne_none _) fun hnil => ?_
    obtain ⟨a, hmem, -⟩ := hbounds.column_mem
    rw [toList, hnil] at hmem
    cases hmem

/-- The columns and rows that bound all stored cells. -/
def bounds (s : Sheet) : Set (Nat × Nat) :=
  { bound | ∀ a c, s.cell? a = some c → a.column.val ≤ bound.1 ∧ a.row.val ≤ bound.2 }

/-- The extent is the least bound of all stored cells: none lies outside, and both of its sides are
reached. -/
lemma isLeast_of_extent? {bound : Nat × Nat} (h : s.extent? = some bound) :
    IsLeast s.bounds bound := by
  rcases s.extent?_cases with ⟨hextent, -⟩ | ⟨columns, rows, hextent, hbounds⟩
  · rw [hextent] at h
    cases h
  · obtain rfl := Option.some.inj (hextent.symm.trans h)
    refine ⟨fun a c hcell => ?_, fun other hother => ?_⟩
    · exact hbounds.le a (List.mem_map_of_mem (mem_toList_iff.mpr hcell))
    · have hle : ∀ a ∈ s.toList.map Prod.fst, a.column.val ≤ other.1 ∧ a.row.val ≤ other.2 := by
        intro a hmem
        obtain ⟨⟨b, c⟩, hcell, rfl⟩ := List.mem_map.mp hmem
        exact hother b c (mem_toList_iff.mp hcell)
      obtain ⟨a, hmem, rfl⟩ := hbounds.column_mem
      obtain ⟨b, hmem', rfl⟩ := hbounds.row_mem
      exact ⟨(hle a hmem).1, (hle b hmem').2⟩

/-- After any run of requests on an empty sheet, every formula that is stored or on the clipboard
starts with an equals sign and the captured addresses are distinct.  The stored cells are listed
once each, row by row, and are as many as the sheet counts.  There is no extent when the sheet is
empty, and else it is the least one that bounds all stored cells.  Moving a formula along never
changes whether an equals sign stands in front. -/
theorem invariants_run (limits : Limits) (requests : List Step) :
    let s := ({ limits } : Sheet).run requests
    s.Invariant ∧
      (∀ a c, (a, c) ∈ s.toList ↔ s.cell? a = some c) ∧
      (s.toList.Pairwise fun x y =>
        x.1.row.val < y.1.row.val ∨ x.1.row = y.1.row ∧ x.1.column.val < y.1.column.val) ∧
      s.toList.length = s.cells.size ∧
      (s.extent? = none ↔ s.cells.isEmpty = true) ∧
      (∀ bound, s.extent? = some bound → IsLeast s.bounds bound) ∧
      ∀ shift f, isFormula (Formula.shifted shift f) = isFormula f := by
  intro s
  have hinvariant : s.Invariant := (invariant_empty limits).run requests
  exact ⟨hinvariant, fun _ _ => mem_toList_iff, s.pairwise_toList, Std.ExtTreeMap.length_toList,
    extent?_eq_none_iff, fun _ => isLeast_of_extent?, isFormula_shifted⟩

/-- A formula whose reference leaves the grid when it is pasted, from a cell that was captured once
though it was asked for twice. -/
theorem invariants_run_lostReference :
    let corner : Address := ⟨⟨1, by decide, by decide⟩, ⟨3, by decide, by decide⟩⟩
    let s := ({} : Sheet).run [.commit "B2" "=A1", .copy ["B2", "B2"], .paste "C1" true]
    s.formula? corner = some "=#REF!" ∧ isFormula "=#REF!" = true ∧
      s.clipboard.map (·.cells.length) = some 1 ∧
      s.extent? = some (3, 2) ∧ IsLeast s.bounds (3, 2) := by
  intro corner s
  obtain ⟨hinvariant, -, -, -, -, hleast, -⟩ := invariants_run {}
    [.commit "B2" "=A1", .copy ["B2", "B2"], .paste "C1" true]
  have hformula : s.formula? corner = some "=#REF!" := by decide +kernel
  have hextent : s.extent? = some (3, 2) := by decide +kernel
  exact ⟨hformula, hinvariant.formula corner _ hformula, by decide +kernel, hextent,
    hleast _ hextent⟩

end Sheet

end Spreadsheet
