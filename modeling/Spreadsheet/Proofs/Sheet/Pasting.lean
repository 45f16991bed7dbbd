import Mathlib.Data.List.Nodup
import Spreadsheet.Proofs.Grid.Translation
import Spreadsheet.Proofs.Sheet.Invariants

/-!
# Pasting captured cells as they are

Pasting without moving formulas along puts every captured cell at the place that lies from it as the
target lies from the anchor, and leaves the places alone that no captured cell is put at
(`Sheet.Pasted`).  A place is told by its numbers, which may leave the grid on either side; a cell
with such a place is dropped, and the others are counted.

Captured addresses are distinct on every sheet that requests lead to, so no two captured cells are
put at one place, and the order in which they are stored does not matter
(`Sheet.cell?_putAll_of_mem`).  What was captured was stored where it was captured, so pasting onto
the anchor puts back what copying left and cutting removed (`Sheet.Pasted.cells_eq`).  The main
result, `Sheet.paste_run`, says both of every run of requests.
-/

namespace Spreadsheet

/-! ## Places -/

/-- The numbers of a column and of a row. -/
def Address.numbers (a : Address) : Int × Int :=
  (a.column.val, a.row.val)

/-- The numbers of the place that lies from an address as the target lies from the anchor. -/
def Address.destination (anchor target a : Address) : Int × Int :=
  (a.column.val + (target.column.val - anchor.column.val),
    a.row.val + (target.row.val - anchor.row.val))

/-- The grid has a place with these numbers. -/
def onGrid (place : Int × Int) : Bool :=
  (1 ≤ place.1 ∧ place.1 ≤ gridSide) ∧ 1 ≤ place.2 ∧ place.2 ≤ gridSide

variable {a b anchor target : Address}

/-- An address is told by the numbers of its column and its row. -/
lemma Address.numbers_inj : a.numbers = b.numbers ↔ a = b := by
  refine ⟨fun h => ?_, congrArg Address.numbers⟩
  obtain ⟨hcolumn, hrow⟩ := Prod.mk.inj h
  rw [Int.ofNat_inj, Index.val_inj] at hcolumn hrow
  cases a
  cases b
  exact congr_arg₂ Address.mk hrow hcolumn

/-- The places of the grid are those of addresses. -/
lemma onGrid_iff {place : Int × Int} : onGrid place = true ↔ ∃ a : Address, a.numbers = place := by
  obtain ⟨column, row⟩ := place
  rw [onGrid, decide_eq_true_iff]
  constructor
  · rintro ⟨⟨hcolumn, hcolumn'⟩, hrow, hrow'⟩
    dsimp only at hcolumn hcolumn' hrow hrow'
    refine ⟨⟨⟨row.toNat, by omega, by omega⟩, ⟨column.toNat, by omega, by omega⟩⟩, ?_⟩
    rw [Address.numbers, Prod.mk.injEq]
    dsimp only
    omega
  · rintro ⟨a, ha⟩
    obtain ⟨rfl, rfl⟩ := Prod.mk.inj ha
    have hcolumn := a.column.pos
    have hrow := a.row.pos
    have hcolumn' := a.column.le_side
    have hrow' := a.row.le_side
    dsimp only
    omega

/-- Pasting onto the anchor itself leaves every address where it was. -/
lemma Address.destination_self (anchor a : Address) : destination anchor anchor a = a.numbers := by
  rw [destination, Int.sub_self, Int.sub_self, Int.add_zero, Int.add_zero, numbers]

/-- Wherever the clipboard is pasted, its anchor lands on the target. -/
lemma Address.destination_anchor (anchor target : Address) :
    destination anchor target anchor = target.numbers := by
  rw [destination, numbers, Prod.mk.injEq]
  omega

namespace Sheet

/-- An address lands at its destination, if this is on the grid. -/
lemma offset?_distance_iff :
    a.offset? (distance anchor target).columns (distance anchor target).rows = some b ↔
      b.numbers = Address.destination anchor target a := by
  rw [Address.offset?_eq_some_iff, Index.shift?_eq_some_iff, Index.shift?_eq_some_iff]
  exact Prod.mk_inj.symm

/-- An address is lost exactly when its destination is off the grid. -/
lemma isSome_offset?_distance : (a.offset? (distance anchor target).columns
    (distance anchor target).rows).isSome = onGrid (Address.destination anchor target a) := by
  rw [Bool.eq_iff_iff, onGrid_iff, Option.isSome_iff_exists]
  exact exists_congr fun _ => offset?_distance_iff

/-! ## Stored cells -/

variable {s next : Sheet} {captured cells : List (Address × Cell)} {c : Cell} {adjust : Bool}

/-- Of cells with distinct addresses every one is found afterwards. -/
lemma cell?_putAll_of_mem (hnodup : (cells.map Prod.fst).Nodup) (hmem : (a, c) ∈ cells) :
    (s.putAll cells).cell? a = some c := by
  rcases s.cell?_putAll_cases cells a with ⟨c', hmem', hcell⟩ | ⟨hnone, -⟩
  · obtain ⟨-, rfl⟩ := Prod.mk.inj (List.inj_on_of_nodup_map hnodup hmem hmem' rfl)
    exact hcell
  · exact absurd (List.mem_map_of_mem hmem) hnone

/-- Pasted cells lie at the addresses where captured ones land, without those that leave the grid.
-/
lemma map_fst_placed (anchor target : Address) (adjust : Bool) (captured : List (Address × Cell)) :
    (placed anchor target adjust captured).map Prod.fst = (captured.map Prod.fst).filterMap
      fun a => a.offset? (distance anchor target).columns (distance anchor target).rows := by
  rw [placed, List.map_filterMap, List.filterMap_map]
  congr 1
  funext captured
  rw [Function.comp_apply, placed?, Option.map_map]
  exact Option.map_id'

/-- Distinct addresses are put at distinct places. -/
lemma nodup_placed (hnodup : (captured.map Prod.fst).Nodup) :
    ((placed anchor target adjust captured).map Prod.fst).Nodup := by
  rw [map_fst_placed]
  refine hnodup.filterMap fun a a' b hb hb' => ?_
  have hdestination := (offset?_distance_iff.mp hb).symm.trans (offset?_distance_iff.mp hb')
  rw [← Address.numbers_inj]
  simp only [Address.destination, Address.numbers, Prod.mk.injEq] at hdestination ⊢
  omega

/-- Something is pasted at an address exactly when it is the destination of a captured cell. -/
lemma mem_map_fst_placed_iff : b ∈ (placed anchor target adjust captured).map Prod.fst ↔
    ∃ x ∈ captured, b.numbers = Address.destination anchor target x.1 := by
  rw [map_fst_placed]
  simp only [List.mem_filterMap, List.mem_map, exists_exists_and_eq_and, offset?_distance_iff]

/-- As many cells are pasted as have their destination on the grid. -/
lemma length_placed : (placed anchor target adjust captured).length =
    captured.countP fun x => onGrid (Address.destination anchor target x.1) := by
  have hlength : (placed anchor target adjust captured).length =
      ((placed anchor target adjust captured).map Prod.fst).length :=
    (List.length_map Prod.fst).symm
  rw [hlength, map_fst_placed, List.length_filterMap_eq_countP, List.countP_map]
  exact List.countP_congr fun x _ => by simp only [Function.comp_apply, isSome_offset?_distance]

/-! ## Captured cells -/

/-- Leaving out repetitions does not change what is found first. -/
lemma find?_eraseDups (p : Address → Bool) (addresses : List Address) :
    addresses.eraseDups.find? p = addresses.find? p := by
  match addresses with
  | [] => rfl
  | a :: others =>
    rw [List.eraseDups_cons, List.find?_cons, List.find?_cons,
      find?_eraseDups p (others.filter fun b => !b == a), List.find?_filter]
    split
    case h_1 => rfl
    case h_2 ha =>
      -- What is left out is what was not found in front.
      congr 1
      funext b
      by_cases hb : b = a
      · simp [hb, ha]
      · simp [hb]
termination_by addresses.length
decreasing_by exact Nat.lt_succ_of_le (List.length_filter_le _ _)

/-- The first captured cell is the first one that is stored among those asked for. -/
lemma exists_capture_eq_cons {addresses : List Address}
    (h : addresses.find? (fun a => (s.cell? a).isSome) = some anchor) :
    ∃ cell others, s.capture addresses = (anchor, cell) :: others := by
  have hhead : ((s.capture addresses).map Prod.fst).head? = some anchor := by
    rw [map_fst_capture, List.head?_filter, find?_eraseDups, h]
  cases hcapture : s.capture addresses with
  | nil =>
    rw [hcapture] at hhead
    cases hhead
  | cons first others =>
    rw [hcapture] at hhead
    obtain ⟨anchor', cell⟩ := first
    cases hhead
    exact ⟨cell, others, rfl⟩

/-! ## Pasted cells -/

/-- The next sheet is a sheet with the captured cells put where they belong when the anchor is put
on the target, and nothing else changed among the cells; as many places are written as are counted.
-/
structure Pasted (s next : Sheet) (anchor target : Address) (captured : List (Address × Cell))
    (count : Nat) : Prop where
  placed : ∀ x ∈ captured, ∀ b : Address, b.numbers = Address.destination anchor target x.1 →
    next.cell? b = some x.2
  kept : ∀ b : Address, (∀ x ∈ captured, b.numbers ≠ Address.destination anchor target x.1) →
    next.cell? b = s.cell? b
  counted : count = captured.countP fun x => onGrid (Address.destination anchor target x.1)
  written : ∃ addresses : List Address, addresses.Nodup ∧ addresses.length = count ∧
    ∀ b, b ∈ addresses ↔ ∃ x ∈ captured, b.numbers = Address.destination anchor target x.1

/-- Captured cells with distinct addresses are pasted as they are. -/
lemma pasted_of_nodup (hnodup : (captured.map Prod.fst).Nodup)
    (hcells : next.cells = (s.pasteCells anchor target false captured).1.cells) :
    s.Pasted next anchor target captured (placed anchor target false captured).length := by
  have hnext : ∀ b, next.cell? b = (s.putAll (placed anchor target false captured)).cell? b := by
    obtain ⟨addresses, hpaste, -, hnone⟩ := s.exists_pasteCells_eq anchor target false captured
    rw [hnone rfl] at hpaste
    intro b
    rw [cell?, hcells, hpaste]
    rfl
  constructor
  case placed =>
    intro x hx b hb
    have hmem : (b, x.2) ∈ placed anchor target false captured := by
      refine List.mem_filterMap.mpr ⟨x, hx, ?_⟩
      rw [placed?, offset?_distance_iff.mpr hb]
      rfl
    rw [hnext, cell?_putAll_of_mem (nodup_placed hnodup) hmem]
  case kept =>
    intro b hb
    have hnone : b ∉ (placed anchor target false captured).map Prod.fst := by
      rw [mem_map_fst_placed_iff]
      rintro ⟨x, hx, hnumbers⟩
      exact hb x hx hnumbers
    rw [hnext, cell?_putAll hnone]
  case counted => exact length_placed
  case written =>
    exact ⟨(placed anchor target false captured).map Prod.fst, nodup_placed hnodup,
      List.length_map _, fun _ => mem_map_fst_placed_iff⟩

/-- After pasting, the target holds the cell of the anchor, so at least one cell is pasted. -/
lemma Pasted.cell?_target {others : List (Address × Cell)} {count : Nat}
    (h : s.Pasted next anchor target ((anchor, c) :: others) count) :
    next.cell? target = some c ∧ 1 ≤ count := by
  refine ⟨h.placed _ List.mem_cons_self target (Address.destination_anchor _ _).symm, ?_⟩
  rw [h.counted]
  refine List.countP_pos_iff.mpr ⟨_, List.mem_cons_self, ?_⟩
  exact onGrid_iff.mpr ⟨target, (Address.destination_anchor _ _).symm⟩

/-- Pasting onto the anchor restores the cells of the sheet that they were captured on. -/
lemma Pasted.cells_eq {held : Sheet} {addresses : List Address} {count : Nat}
    (h : held.Pasted next anchor anchor (s.capture addresses) count)
    (hheld : ∀ b, b ∉ (s.capture addresses).map Prod.fst → held.cell? b = s.cell? b) :
    next.cells = s.cells := by
  have hnext : ∀ b, next.cell? b = s.cell? b := by
    intro b
    by_cases hb : b ∈ (s.capture addresses).map Prod.fst
    · obtain ⟨x, hx, rfl⟩ := List.mem_map.mp hb
      rw [h.placed x hx x.1 (Address.destination_self _ _).symm, (mem_capture_iff.mp hx).2]
    · rw [h.kept b ?_, hheld b hb]
      rintro x hx hnumbers
      rw [Address.destination_self, Address.numbers_inj] at hnumbers
      exact hb (hnumbers ▸ List.mem_map_of_mem hx)
  exact Std.ExtTreeMap.ext_getElem? fun {b} => hnext b

/-- Onto the anchor every captured cell is pasted. -/
lemma Pasted.count_eq {count : Nat} (h : s.Pasted next anchor anchor captured count) :
    count = captured.length := by
  rw [h.counted]
  refine List.countP_eq_length.mpr fun x _ => ?_
  rw [Address.destination_self]
  exact onGrid_iff.mpr ⟨x.1, rfl⟩

/-- Cutting removes what it captures and leaves every other cell as it is. -/
lemma cell?_cut_of_notMem_capture {addresses : List Address}
    (h : a ∉ (s.capture addresses).map Prod.fst) : (s.cut addresses).cell? a = s.cell? a := by
  by_cases hmem : a ∈ addresses
  · rw [cell?_cut_of_mem hmem, eq_comm, Option.eq_none_iff_forall_ne_some]
    intro c hcell
    have hcaptured : (a, c) ∈ s.capture addresses := mem_capture_iff.mpr ⟨hmem, hcell⟩
    exact h (List.mem_map_of_mem hcaptured)
  · exact cell?_cut hmem

/-! ## Requests -/

/-- A clipboard that is not empty can be pasted. -/
lemma exists_step_paste {spot : String} {kind : Clipboard.Kind} {others : List (Address × Cell)}
    (hspot : Address.ofText? spot = some target)
    (hclipboard : s.clipboard = some ⟨kind, (anchor, c) :: others⟩) : ∃ next,
      s.step (.paste spot adjust) =
        (next, .ok (.count (placed anchor target adjust ((anchor, c) :: others)).length)) ∧
      next.cells = (s.pasteCells anchor target adjust ((anchor, c) :: others)).1.cells := by
  have hpaste : ∃ next, s.paste? target adjust =
        some (next, (placed anchor target adjust ((anchor, c) :: others)).length) ∧
      next.cells = (s.pasteCells anchor target adjust ((anchor, c) :: others)).1.cells := by
    unfold paste?
    rw [hclipboard]
    cases kind with
    | copy => exact ⟨_, rfl, rfl⟩
    | cut => exact ⟨_, rfl, rfl⟩
  obtain ⟨next, hpaste, hcells⟩ := hpaste
  refine ⟨next, ?_, hcells⟩
  have hwhole : s.tryStep (.paste spot adjust) =
      .ok (next, .count (placed anchor target adjust ((anchor, c) :: others)).length) := by
    refine bind_eq_ok_iff.mpr ⟨target, place_eq_ok_iff.mpr hspot, ?_⟩
    rw [hpaste]
    rfl
  rw [step_eq_tryStep, hwhole]

/-- Captured cells with distinct addresses are pasted as they are. -/
lemma exists_pasted {spot : String} {kind : Clipboard.Kind} {others : List (Address × Cell)}
    (hnodup : ∀ board ∈ s.clipboard, (board.cells.map Prod.fst).Nodup)
    (hspot : Address.ofText? spot = some target)
    (hclipboard : s.clipboard = some ⟨kind, (anchor, c) :: others⟩) : ∃ next count,
      s.step (.paste spot false) = (next, .ok (.count count)) ∧
        s.Pasted next anchor target ((anchor, c) :: others) count := by
  obtain ⟨next, hstep, hcells⟩ := exists_step_paste hspot hclipboard
  exact ⟨next, _, hstep, pasted_of_nodup (hnodup _ hclipboard) hcells⟩

/-- Captured cells are put back on the sheet that holds them by pasting onto the anchor. -/
lemma exists_restored {held : Sheet} {spot : String} {kind : Clipboard.Kind}
    {addresses : List Address} (hspot : Address.ofText? spot = some anchor)
    (hfirst : addresses.find? (fun a => (s.cell? a).isSome) = some anchor)
    (hclipboard : held.clipboard = some ⟨kind, s.capture addresses⟩)
    (hheld : ∀ b, b ∉ (s.capture addresses).map Prod.fst → held.cell? b = s.cell? b) :
    (held.clipboard.bind (·.cells.head?)).map Prod.fst = some anchor ∧ ∃ next,
      held.step (.paste spot false) = (next, .ok (.count (s.capture addresses).length)) ∧
        next.cells = s.cells := by
  obtain ⟨cell, others, hcapture⟩ := exists_capture_eq_cons hfirst
  have hnodup : ∀ board ∈ held.clipboard, (board.cells.map Prod.fst).Nodup := by
    rw [hclipboard]
    rintro board ⟨⟩
    exact s.nodup_capture addresses
  have hcons : held.clipboard = some ⟨kind, (anchor, cell) :: others⟩ := by
    rw [hclipboard, hcapture]
  obtain ⟨next, count, hstep, hpasted⟩ := exists_pasted hnodup hspot hcons
  rw [← hcapture] at hpasted
  obtain rfl := hpasted.count_eq
  exact ⟨by rw [hcons]; rfl, next, hstep, hpasted.cells_eq hheld⟩

/-- A request to copy puts the cells at the named addresses on the clipboard and reports how many
they are. -/
lemma step_copy {places : List String} {addresses : List Address}
    (hplaces : places.mapM place = .ok addresses) :
    s.step (.copy places) = (s.copy addresses, .ok (.count (s.capture addresses).length)) := by
  rw [step_eq_tryStep, tryStep, hplaces]
  rfl

/-- A request to cut removes the cells at the named addresses and reports how many they are. -/
lemma step_cut {places : List String} {addresses : List Address}
    (hplaces : places.mapM place = .ok addresses) :
    s.step (.cut places) = (s.cut addresses, .ok (.count (s.capture addresses).length)) := by
  rw [step_eq_tryStep, tryStep, hplaces]
  rfl

/-- On every sheet that requests lead to, a clipboard with cells can be pasted as it is onto any
target: every captured cell lies from the target as it lay from the anchor, the first captured
address, unless that leaves the grid, and every other place is as before.  The count tells how many
captured cells have a place on the grid and how many places were written; the anchor's cell always
lies on the target.  Copying or cutting a list that names a stored cell and pasting onto the anchor,
which is the first such cell, leads back to the same cells, with the same count. -/
theorem paste_run (limits : Limits) (requests : List Step) :
    let s := ({ limits } : Sheet).run requests
    (∀ spot target kind anchor cell others, Address.ofText? spot = some target →
      s.clipboard = some ⟨kind, (anchor, cell) :: others⟩ →
      ∃ next count, s.step (.paste spot false) = (next, .ok (.count count)) ∧
        s.Pasted next anchor target ((anchor, cell) :: others) count ∧
        next.cell? target = some cell ∧ 1 ≤ count) ∧
    ∀ places addresses anchor spot, places.mapM place = .ok addresses →
      addresses.find? (fun a => (s.cell? a).isSome) = some anchor →
      Address.ofText? spot = some anchor →
      ∀ request ∈ [Step.copy places, Step.cut places], ∃ held next count,
        s.step request = (held, .ok (.count count)) ∧
        (held.clipboard.bind (·.cells.head?)).map Prod.fst = some anchor ∧
        held.step (.paste spot false) = (next, .ok (.count count)) ∧ next.cells = s.cells := by
  intro s
  have hinvariant : s.Invariant := (invariant_empty limits).run requests
  constructor
  · intro spot target kind anchor cell others hspot hclipboard
    obtain ⟨next, count, hstep, hpasted⟩ :=
      exists_pasted hinvariant.captured_nodup hspot hclipboard
    exact ⟨next, count, hstep, hpasted, hpasted.cell?_target⟩
  · intro places addresses anchor spot hplaces hfirst hspot request hrequest
    rw [List.mem_pair] at hrequest
    rcases hrequest with rfl | rfl
    · have hclipboard : (s.copy addresses).clipboard = some ⟨.copy, s.capture addresses⟩ := rfl
      obtain ⟨hanchor, next, hstep, hcells⟩ :=
        exists_restored hspot hfirst hclipboard fun _ _ => rfl
      exact ⟨_, next, _, step_copy hplaces, hanchor, hstep, hcells⟩
    · obtain ⟨hanchor, next, hstep, hcells⟩ :=
        exists_restored hspot hfirst (s.clipboard_cut addresses)
          fun _ => cell?_cut_of_notMem_capture
      exact ⟨_, next, _, step_cut hplaces, hanchor, hstep, hcells⟩

/-- Of three captured cells one is pasted onto another one, and the third one leaves the grid; then
two of them are cut, asked for twice and together with an empty place, and put back. -/
theorem paste_run_overlap :
    let corner : Address := ⟨⟨1, by decide, by decide⟩, ⟨1, by decide, by decide⟩⟩
    let target : Address := ⟨⟨2, by decide, by decide⟩, ⟨2, by decide, by decide⟩⟩
    let s := ({} : Sheet).run [.commit "A1" "2", .commit "B2" "=A1+1", .commit "C3" "7",
      .copy ["D9", "C3", "B2", "C3", "A1"]]
    (∃ next, s.step (.paste "B2" false) = (next, .ok (.count 2)) ∧
      next.cell? target = some ⟨"7", none, none⟩ ∧
      next.cell? corner = some ⟨"3", some "=A1+1", none⟩) ∧
    ∃ held next count, s.step (.cut ["D9", "B2", "A1", "B2"]) = (held, .ok (.count count)) ∧
      held.step (.paste "B2" false) = (next, .ok (.count count)) ∧ next.cells = s.cells := by
  intro corner target s
  obtain ⟨hpaste, hrestore⟩ := paste_run {} [.commit "A1" "2", .commit "B2" "=A1+1",
    .commit "C3" "7", .copy ["D9", "C3", "B2", "C3", "A1"]]
  constructor
  · let anchor : Address := ⟨⟨3, by decide, by decide⟩, ⟨3, by decide, by decide⟩⟩
    obtain ⟨next, count, hstep, hpasted, htarget, -⟩ := hpaste "B2" target .copy anchor
      ⟨"7", none, none⟩ [(target, ⟨"3", some "=A1+1", none⟩), (corner, ⟨"2", none, none⟩)]
      (by decide +kernel) (by decide +kernel)
    obtain rfl : count = 2 := hpasted.counted.trans (by decide)
    exact ⟨next, hstep, htarget, hpasted.placed (target, _) (by simp) corner (by decide)⟩
  · let empty : Address := ⟨⟨9, by decide, by decide⟩, ⟨4, by decide, by decide⟩⟩
    obtain ⟨held, next, count, hcut, -, hback⟩ := hrestore ["D9", "B2", "A1", "B2"]
      [empty, target, corner, target] target "B2" rfl (by decide +kernel) (by decide +kernel)
      (.cut ["D9", "B2", "A1", "B2"]) (by simp)
    exact ⟨held, next, count, hcut, hback⟩

end Sheet

end Spreadsheet
