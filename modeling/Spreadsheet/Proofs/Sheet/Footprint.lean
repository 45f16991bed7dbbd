import Mathlib.Data.List.Basic
import Spreadsheet.Proofs.Sheet.Cells
import Spreadsheet.Proofs.Sheet.Changes

/-!
# The footprint of a step

`Sheet.Writes s a request` says that a request may store or remove a cell at an address: at the
address it names, at one of the addresses it lists, where a captured cell is pasted, or where an
imported text lies.  Every other cell is left as it is (`Sheet.cell?_step`), also when the request
fails.  A change of style stores a cell but keeps what it shows and its formula
(`Sheet.display_restyle`, `Sheet.formula?_restyle`).
-/

namespace Spreadsheet

namespace Sheet

/-- Pasting with the anchor on a target puts a captured cell at the address. -/
def PastesAt (s : Sheet) (target a : Address) : Prop :=
  ∃ kind anchor cell others, s.clipboard = some ⟨kind, (anchor, cell) :: others⟩ ∧
    ∃ captured ∈ (anchor, cell) :: others,
      captured.1.offset? (distance anchor target).columns (distance anchor target).rows = some a

/-- The request may store or remove the cell at the address. -/
def Writes (s : Sheet) (a : Address) : Step → Prop
  | .commit spot _ => Address.ofText? spot = some a
  | .resubmit spot => Address.ofText? spot = some a
  | .clear spot => Address.ofText? spot = some a
  | .restyle spot _ => Address.ofText? spot = some a
  | .cut spots => ∃ addresses, spots.mapM place = .ok addresses ∧ a ∈ addresses
  | .paste spot _ => ∃ target, Address.ofText? spot = some target ∧ s.PastesAt target a
  | .importBytes bytes => ∃ cells, Csv.read bytes = .ok cells ∧ a ∈ cells.map Prod.fst
  | .importFile path files => ∃ content cells, files.read (within path) = .ok content ∧
      Csv.read content.data.toList = .ok cells ∧ a ∈ cells.map Prod.fst
  | _ => False

/-! ## Changes of a sheet -/

variable {s : Sheet} {a b : Address}

/-- Storing a cell changes no other address. -/
lemma cell?_put_of_ne (c : Cell) (h : b ≠ a) : (s.put b c).cell? a = s.cell? a := by
  rw [cell?_put, if_neg h]

/-- Removing a cell changes the cell at no other address. -/
lemma cell?_remove_of_ne (h : b ≠ a) : (s.remove b).cell? a = s.cell? a := by
  rw [cell?_remove, if_neg h]

/-- A commit changes no other address, not even the values of formulas that depend on it. -/
lemma cell?_commit_of_ne (input : String) (h : b ≠ a) :
    (s.commit b input).1.cell? a = s.cell? a := by
  obtain ⟨value, hput⟩ := s.exists_put_commit b input
  rw [hput, cell?_put_of_ne _ h]

/-- Submitting a cell again changes the cell at no other address. -/
lemma cell?_resubmit_of_ne (h : b ≠ a) : (s.resubmit b).1.cell? a = s.cell? a := by
  rcases s.resubmit_cases b with hsame | ⟨c, value, -, -, hput⟩
  · rw [hsame]
  · rw [hput, cell?_put_of_ne _ h]

/-- Restyling a cell changes the cell at no other address. -/
lemma cell?_restyle_of_ne (p : StylePatch) (h : b ≠ a) : (s.restyle b p).cell? a = s.cell? a :=
  cell?_put_of_ne _ h

/-- Removing cells one after the other changes only their own addresses. -/
lemma cell?_foldl_remove {addresses : List Address} (h : a ∉ addresses) (s : Sheet) :
    (addresses.foldl remove s).cell? a = s.cell? a := by
  induction addresses generalizing s with
  | nil => rfl
  | cons b addresses ih =>
    rw [List.mem_cons, not_or] at h
    rw [List.foldl_cons, ih h.2, cell?_remove_of_ne (Ne.symm h.1)]

/-- Cutting changes only the addresses that are cut. -/
lemma cell?_cut {addresses : List Address} (h : a ∉ addresses) :
    (s.cut addresses).cell? a = s.cell? a :=
  cell?_foldl_remove h _

/-- An address that is cut is empty afterwards, also when it was empty before. -/
lemma cell?_cut_of_mem {addresses : List Address} (h : a ∈ addresses) :
    (s.cut addresses).cell? a = none := by
  have hfold : ∀ s : Sheet, (addresses.foldl remove s).cell? a = none := by
    induction addresses with
    | nil => cases h
    | cons b addresses ih =>
      intro s
      rw [List.foldl_cons]
      by_cases hrest : a ∈ addresses
      · exact ih hrest _
      · obtain rfl := (List.mem_cons.mp h).resolve_right hrest
        rw [cell?_foldl_remove hrest, cell?_remove, if_pos rfl]
  exact hfold _

/-- Storing cells one after the other changes only their own addresses. -/
lemma cell?_putAll {cells : List (Address × Cell)} (h : a ∉ cells.map Prod.fst) (s : Sheet) :
    (s.putAll cells).cell? a = s.cell? a := by
  rcases s.cell?_putAll_cases cells a with ⟨c, hmem, -⟩ | ⟨-, hcell⟩
  · exact absurd (List.mem_map_of_mem hmem) h
  · exact hcell

/-- Submitting cells again one after the other changes only their own addresses. -/
lemma cell?_resubmitAll {addresses : List Address} (h : a ∉ addresses) (s : Sheet) :
    (s.resubmitAll addresses).cell? a = s.cell? a := by
  induction addresses generalizing s with
  | nil => rfl
  | cons b addresses ih =>
    rw [List.mem_cons, not_or] at h
    have hrest : s.resubmitAll (b :: addresses) = (s.resubmit b).1.resubmitAll addresses := rfl
    rw [hrest, ih h.2, cell?_resubmit_of_ne (Ne.symm h.1)]

/-- The captured cells that have a place on the grid when they are pasted. -/
def placed (anchor target : Address) (adjust : Bool) (cells : List (Address × Cell)) :
    List (Address × Cell) :=
  cells.filterMap fun cell => placed? (distance anchor target) adjust cell.1 cell.2

/-- Only cells that were pasted are evaluated again, and none when formulas are not moved along. -/
lemma exists_pasteCells_eq (s : Sheet) (anchor target : Address) (adjust : Bool)
    (cells : List (Address × Cell)) : ∃ addresses : List Address,
      (s.pasteCells anchor target adjust cells).1 =
        (s.putAll (placed anchor target adjust cells)).resubmitAll addresses ∧
      addresses ⊆ (placed anchor target adjust cells).map Prod.fst ∧
      (adjust = false → addresses = []) := by
  unfold pasteCells
  refine ⟨_, rfl, List.map_subset _ (List.filter_subset_self _), ?_⟩
  rintro rfl
  simp

/-- Pasting leaves the cells alone that no captured cell is put at. -/
lemma cell?_pasteCells {anchor target : Address} {adjust : Bool} {cells : List (Address × Cell)}
    (h : ∀ cell ∈ cells, cell.1.offset? (distance anchor target).columns
      (distance anchor target).rows ≠ some a) :
    (s.pasteCells anchor target adjust cells).1.cell? a = s.cell? a := by
  have hplaced : a ∉ (placed anchor target adjust cells).map Prod.fst := by
    rw [List.mem_map]
    rintro ⟨cell, hcell, rfl⟩
    obtain ⟨captured, hcaptured, hplaced⟩ := List.mem_filterMap.mp hcell
    obtain ⟨b, hb, rfl⟩ := Option.map_eq_some_iff.mp hplaced
    exact h captured hcaptured hb
  obtain ⟨addresses, hpaste, hsubset, -⟩ := s.exists_pasteCells_eq anchor target adjust cells
  rw [hpaste, cell?_resubmitAll fun hmem => hplaced (hsubset hmem), cell?_putAll hplaced]

/-- Storing texts changes only the addresses of the texts. -/
lemma cell?_putTexts_of_notMem {cells : List (Address × String)} (h : a ∉ cells.map Prod.fst) :
    (s.putTexts cells).cell? a = s.cell? a := by
  rcases cell?_putTexts s cells a with ⟨value, hmem, -⟩ | ⟨-, hcell⟩
  · exact absurd (List.mem_map_of_mem hmem) h
  · exact hcell

/-! ## Steps -/

/-- The change that a request makes leaves every cell outside the footprint as it is. -/
lemma Changes.cell?_of_not_writes {request : Step} {next : Sheet}
    (hchanges : s.Changes request next) (h : ¬s.Writes a request) :
    next.cell? a = s.cell? a := by
  have hne : ∀ {spot : String} {b : Address}, Address.ofText? spot = some b →
      Address.ofText? spot ≠ some a → b ≠ a := by
    rintro spot b hb hspot rfl
    exact hspot hb
  cases hchanges with
  | commit hspot => exact cell?_commit_of_ne _ (hne hspot h)
  | resubmit hspot => exact cell?_resubmit_of_ne (hne hspot h)
  | clear hspot => exact cell?_remove_of_ne (hne hspot h)
  | restyle hspot => exact cell?_restyle_of_ne _ (hne hspot h)
  | cut hspots => exact cell?_cut fun hmem => h ⟨_, hspots, hmem⟩
  | paste hspot hclipboard =>
    refine cell?_pasteCells fun captured hmem hoffset => h ⟨_, hspot, ?_⟩
    exact ⟨_, _, _, _, hclipboard, captured, hmem, hoffset⟩
  | importBytes hread => exact cell?_putTexts_of_notMem fun hmem => h ⟨_, hread, hmem⟩
  | importFile hcontent hread =>
    exact cell?_putTexts_of_notMem fun hmem => h ⟨_, _, hcontent, hread, hmem⟩
  | copy | setLimits | look => rfl

/-- A step leaves every cell outside its footprint as it is. -/
theorem cell?_step {request : Step} (h : ¬s.Writes a request) :
    (s.step request).1.cell? a = s.cell? a := by
  rcases s.step_cases request with hchanges | hsame
  · exact hchanges.cell?_of_not_writes h
  · rw [hsame]

/-! ## Changes of style -/

/-- Restyling changes no text that is shown, not even at the address itself. -/
lemma display_restyle (s : Sheet) (b : Address) (p : StylePatch) (a : Address) :
    (s.restyle b p).display a = s.display a := by
  rw [restyle, display_put]
  split
  case isTrue h =>
    rw [h, display]
    cases s.cell? a <;> rfl
  case isFalse => rfl

/-- Restyling changes no formula, not even at the address itself. -/
lemma formula?_restyle (s : Sheet) (b : Address) (p : StylePatch) (a : Address) :
    (s.restyle b p).formula? a = s.formula? a := by
  rw [restyle, formula?_put]
  split
  case isTrue h =>
    rw [h, formula?]
    cases s.cell? a <;> rfl
  case isFalse => rfl

/-- A request to change a style does so at some address, or fails. -/
lemma step_restyle_cases (s : Sheet) (spot : String) (p : StylePatch) :
    (s.step (.restyle spot p)).1 = s ∨ ∃ a, (s.step (.restyle spot p)).1 = s.restyle a p := by
  rcases s.step_cases (.restyle spot p) with hchanges | hsame
  · generalize (s.step (.restyle spot p)).1 = next at hchanges ⊢
    cases hchanges with
    | restyle hspot => exact .inr ⟨_, rfl⟩
    | look hlooks => exact .inl rfl
  · exact .inl hsame

end Sheet

end Spreadsheet
