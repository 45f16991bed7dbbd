import Spreadsheet.Proofs.Sheet.Commuting
import Spreadsheet.Proofs.Sheet.Pasting

/-!
# Pasting with formulas moved along

When formulas are moved along, pasting first stores all captured cells and then evaluates the pasted
formulas again, one after another.  The main result, `Sheet.paste_moved_run`, says that no
evaluation sees a sheet that is only half done when no pasted formula mentions the place of a pasted
formula: every pasted formula shows what it evaluates to on the sheet in the end, and the cells do
not depend on the order in which they were captured, but for the anchor, which comes first.

Each formula finds the cells that it mentions as they were stored, whatever was evaluated before
(`Sheet.cell?_resubmitAll_of_mem`), and evaluating it changes nothing that it or another one
mentions (`Sheet.evaluate_resubmitAll`).
-/

namespace Spreadsheet

namespace Sheet

variable {s t next : Sheet} {a b anchor target : Address} {f : String}
  {addresses addresses' : List Address} {cells cells' captured captured' : List (Address × Cell)}

/-! ## Evaluating again one after another -/

/-- Submitting cells again leaves the clipboard as it was. -/
lemma clipboard_resubmitAll (s : Sheet) (addresses : List Address) :
    (s.resubmitAll addresses).clipboard = s.clipboard :=
  foldl_keeps Sheet.clipboard clipboard_resubmit addresses s

/-- Submitting cells again leaves the limits as they were. -/
lemma limits_resubmitAll (s : Sheet) (addresses : List Address) :
    (s.resubmitAll addresses).limits = s.limits :=
  foldl_keeps Sheet.limits limits_resubmit addresses s

/-- A formula gives the same outcome while others are evaluated again that it does not mention. -/
lemma evaluate_resubmitAll (h : ∀ b ∈ addresses, ¬Precedent s.limits f b) :
    (s.resubmitAll addresses).evaluate f = s.evaluate f := by
  refine evaluate_congr (limits_resubmitAll s addresses) fun b hb => ?_
  have hmem : b ∉ addresses := fun hmem => h b hmem hb
  unfold Snapshot.content snapshot
  rw [cell?_resubmitAll hmem]

/-- A formula that mentions none of the addresses is evaluated as if it were the only one. -/
lemma cell?_resubmitAll_of_mem (hnodup : addresses.Nodup) (ha : a ∈ addresses)
    (h : ∀ f, s.formula? a = some f → ∀ b ∈ addresses, ¬Precedent s.limits f b) :
    (s.resubmitAll addresses).cell? a = (s.resubmit a).1.cell? a := by
  induction addresses generalizing s with
  | nil => exact absurd ha List.not_mem_nil
  | cons b addresses ih =>
    obtain ⟨hb, hnodup⟩ := List.nodup_cons.mp hnodup
    have hfirst : s.resubmitAll (b :: addresses) = (s.resubmit b).1.resubmitAll addresses := rfl
    rw [hfirst]
    rcases List.mem_cons.mp ha with rfl | ha'
    · exact cell?_resubmitAll hb _
    · have hab : a ≠ b := by
        rintro rfl
        exact hb ha'
      have hformula : (s.resubmit b).1.formula? a = s.formula? a := by
        rw [formula?, formula?, cell?_resubmit_of_ne hab.symm]
      rw [ih hnodup ha' ?_]
      · have hother : ∀ f, s.submitted? a .resubmit = some f → ¬Precedent s.limits f b :=
          fun f hf => h f hf b List.mem_cons_self
        exact (submit_submit (x := .resubmit) (y := .resubmit) hab hother).1
      · rw [hformula, limits_resubmit]
        exact fun f hf c hc => h f hf c (List.mem_cons_of_mem b hc)

/-- A formula that is evaluated again leaves the rest of its cell. -/
lemma cell?_resubmit_self {c : Cell} (hcell : s.cell? a = some c) (hf : c.formula = some f) :
    (s.resubmit a).1.cell? a =
      some { c with value := Formula.display (s.evaluate f) } := by
  obtain ⟨value, formula, style⟩ := c
  obtain rfl : formula = some f := hf
  unfold resubmit
  rw [hcell]
  exact (cell?_put s a a _).trans (if_pos rfl)

/-! ## Order -/

/-- Storing cells leaves the clipboard as it was. -/
lemma clipboard_putAll (s : Sheet) (cells : List (Address × Cell)) :
    (s.putAll cells).clipboard = s.clipboard := by
  rw [putAll, foldl_keeps Sheet.clipboard]
  exact fun _ _ => rfl

/-- Storing cells leaves the limits as they were. -/
lemma limits_putAll (s : Sheet) (cells : List (Address × Cell)) :
    (s.putAll cells).limits = s.limits := by
  rw [putAll, foldl_keeps Sheet.limits]
  exact fun _ _ => rfl

/-- Cells with distinct addresses can be stored in any order. -/
lemma putAll_perm (hnodup : (cells.map Prod.fst).Nodup) (hperm : cells.Perm cells') :
    s.putAll cells = s.putAll cells' := by
  have hnodup' : (cells'.map Prod.fst).Nodup := (hperm.map Prod.fst).nodup_iff.mp hnodup
  refine eq_of_cell?_eq (fun a => ?_) ?_ ?_
  · rcases s.cell?_putAll_cases cells a with ⟨c, hmem, hcell⟩ | ⟨hnone, hcell⟩
    · rw [hcell, cell?_putAll_of_mem hnodup' (hperm.mem_iff.mp hmem)]
    · rw [hcell, cell?_putAll fun hmem => hnone ((hperm.map Prod.fst).mem_iff.mpr hmem)]
  · rw [clipboard_putAll, clipboard_putAll]
  · rw [limits_putAll, limits_putAll]

/-- Formulas that mention none of each other's addresses can be evaluated again in any order. -/
lemma resubmitAll_perm (hnodup : addresses.Nodup)
    (h : ∀ a ∈ addresses, ∀ f, s.formula? a = some f →
      ∀ b ∈ addresses, ¬Precedent s.limits f b)
    (hperm : addresses.Perm addresses') : s.resubmitAll addresses = s.resubmitAll addresses' := by
  refine eq_of_cell?_eq (fun a => ?_) ?_ ?_
  · by_cases ha : a ∈ addresses
    · rw [cell?_resubmitAll_of_mem hnodup ha (h a ha), cell?_resubmitAll_of_mem
        (hperm.nodup_iff.mp hnodup) (hperm.mem_iff.mp ha)]
      exact fun f hf b hb => h a ha f hf b (hperm.mem_iff.mpr hb)
    · rw [cell?_resubmitAll ha, cell?_resubmitAll fun hmem => ha (hperm.mem_iff.mpr hmem)]
  · rw [clipboard_resubmitAll, clipboard_resubmitAll]
  · rw [limits_resubmitAll, limits_resubmitAll]

/-! ## Pasted cells -/

/-- The addresses of the cells with formulas. -/
def formulaPlaces (cells : List (Address × Cell)) : List Address :=
  (cells.filter fun x => x.2.formula.isSome).map Prod.fst

/-- Pasting with references moved stores all cells first, and then evaluates their formulas one
after the other. -/
lemma pasteCells_moved (s : Sheet) (anchor target : Address)
    (captured : List (Address × Cell)) : (s.pasteCells anchor target true captured).1 =
      (s.putAll (placed anchor target true captured)).resubmitAll
        (formulaPlaces (placed anchor target true captured)) :=
  rfl

/-- A captured cell with its formula moved along. -/
def movedCell (anchor target : Address) (c : Cell) : Cell :=
  { c with formula := c.formula.map (Formula.shifted (distance anchor target)) }

/-- A cell is pasted exactly at the destination of a captured one, with its formula moved along. -/
lemma mem_placed_iff {c : Cell} : (b, c) ∈ placed anchor target true captured ↔
    ∃ x ∈ captured, b.numbers = Address.destination anchor target x.1 ∧
      c = movedCell anchor target x.2 := by
  simp only [placed, List.mem_filterMap, placed?, Option.map_eq_some_iff, Prod.mk.injEq,
    offset?_distance_iff]
  constructor
  · rintro ⟨x, hx, b', hb, rfl, rfl⟩
    exact ⟨x, hx, hb, rfl⟩
  · rintro ⟨x, hx, hb, rfl⟩
    exact ⟨x, hx, b, hb, rfl, rfl⟩

/-- Pasting puts a formula, moved along, at the address. -/
def PutsFormula (anchor target : Address) (captured : List (Address × Cell)) (b : Address)
    (f : String) : Prop :=
  ∃ x ∈ captured, b.numbers = Address.destination anchor target x.1 ∧
    (movedCell anchor target x.2).formula = some f

/-- No formula that is pasted mentions the place of one that is pasted. -/
def PastesApart (s : Sheet) (anchor target : Address) (captured : List (Address × Cell)) : Prop :=
  ∀ a f, PutsFormula anchor target captured a f →
    ∀ b g, PutsFormula anchor target captured b g → ¬Precedent s.limits f b

/-- The cells that are evaluated after pasting are those at which a formula was put. -/
lemma mem_formulaPlaces_placed_iff : b ∈ formulaPlaces (placed anchor target true captured) ↔
    ∃ f, PutsFormula anchor target captured b f := by
  constructor
  · intro hmem
    obtain ⟨⟨b, c⟩, hcell, rfl⟩ := List.mem_map.mp hmem
    obtain ⟨hplaced, hformula⟩ := List.mem_filter.mp hcell
    obtain ⟨x, hx, hb, rfl⟩ := mem_placed_iff.mp hplaced
    obtain ⟨f, hf⟩ := Option.isSome_iff_exists.mp hformula
    exact ⟨f, x, hx, hb, hf⟩
  · rintro ⟨f, x, hx, hb, hf⟩
    have hplaced : (b, movedCell anchor target x.2) ∈ placed anchor target true captured :=
      mem_placed_iff.mpr ⟨x, hx, hb, rfl⟩
    refine List.mem_map_of_mem (List.mem_filter.mpr ⟨hplaced, ?_⟩)
    rw [hf]
    rfl

/-- No formula is evaluated twice after pasting, since no two captured cells land on one address. -/
lemma nodup_formulaPlaces (hnodup : (captured.map Prod.fst).Nodup) :
    (formulaPlaces (placed anchor target true captured)).Nodup :=
  (List.filter_sublist.map Prod.fst).nodup (nodup_placed hnodup)

/-- What is stored at the place of a captured cell before any formula is evaluated. -/
lemma cell?_putAll_placed (hnodup : (captured.map Prod.fst).Nodup) {x : Address × Cell}
    (hx : x ∈ captured) (hb : b.numbers = Address.destination anchor target x.1) :
    (s.putAll (placed anchor target true captured)).cell? b =
      some (movedCell anchor target x.2) :=
  cell?_putAll_of_mem (nodup_placed hnodup) (mem_placed_iff.mpr ⟨x, hx, hb, rfl⟩)

/-- The formulas that are evaluated again after pasting mention none of each other's addresses. -/
lemma PastesApart.not_precedent (hnodup : (captured.map Prod.fst).Nodup)
    (h : s.PastesApart anchor target captured)
    (ha : a ∈ formulaPlaces (placed anchor target true captured))
    (hf : (s.putAll (placed anchor target true captured)).formula? a = some f)
    (hb : b ∈ formulaPlaces (placed anchor target true captured)) :
    ¬Precedent (s.putAll (placed anchor target true captured)).limits f b := by
  obtain ⟨g, x, hx, hnumbers, hg⟩ := mem_formulaPlaces_placed_iff.mp ha
  obtain ⟨g', hputs⟩ := mem_formulaPlaces_placed_iff.mp hb
  rw [formula?, cell?_putAll_placed hnodup hx hnumbers] at hf
  rw [limits_putAll]
  exact h a f ⟨x, hx, hnumbers, hf⟩ b g' hputs

/-- Pasting does not depend on the order of the captured cells. -/
lemma pasteCells_perm (hnodup : (captured.map Prod.fst).Nodup)
    (h : s.PastesApart anchor target captured) (hperm : captured.Perm captured') :
    (s.pasteCells anchor target true captured).1 =
      (s.pasteCells anchor target true captured').1 := by
  have hplaced : (placed anchor target true captured).Perm (placed anchor target true captured') :=
    hperm.filterMap _
  have hplaces := (hplaced.filter fun x => x.2.formula.isSome).map Prod.fst
  rw [pasteCells_moved, pasteCells_moved, ← putAll_perm (nodup_placed hnodup) hplaced]
  exact resubmitAll_perm (nodup_formulaPlaces hnodup)
    (fun a ha f hf b hb => h.not_precedent hnodup ha hf hb) hplaces

/-! ## Sheets that differ on the clipboard -/

/-- The sheets have the same cells and limits. -/
structure SameCells (s t : Sheet) : Prop where
  cells : t.cells = s.cells
  limits : t.limits = s.limits

/-- Formulas do not see the clipboard. -/
lemma SameCells.evaluate (h : SameCells s t) (f : String) : t.evaluate f = s.evaluate f := by
  unfold Sheet.evaluate snapshot cell?
  rw [h.cells, h.limits]

/-- Sheets with the same cells have the same one at every address. -/
lemma SameCells.cell? (h : SameCells s t) (a : Address) : t.cell? a = s.cell? a := by
  rw [Sheet.cell?, h.cells, Sheet.cell?]

/-- Storing the same cell leads to the same cells. -/
lemma SameCells.put (h : SameCells s t) (a : Address) (c : Cell) :
    SameCells (s.put a c) (t.put a c) where
  cells := congrArg (fun cells => cells.insert a c) h.cells
  limits := h.limits

/-- Submitting again leads to the same cells, since formulas do not see the clipboard. -/
lemma SameCells.resubmit (h : SameCells s t) (a : Address) :
    SameCells (s.resubmit a).1 (t.resubmit a).1 := by
  unfold Sheet.resubmit
  rw [h.cell? a]
  split
  · rw [h.evaluate]
    exact h.put a _
  · exact h

/-- Changes that look at the cells and the limits only lead to the same cells. -/
lemma SameCells.foldl {α : Type} {change : Sheet → α → Sheet}
    (hchange : ∀ {s t : Sheet} (x : α), SameCells s t → SameCells (change s x) (change t x))
    (h : SameCells s t) (xs : List α) : SameCells (xs.foldl change s) (xs.foldl change t) := by
  induction xs generalizing s t with
  | nil => exact h
  | cons x xs ih => exact ih (hchange x h)

/-- Pasting the same cells leads to the same cells. -/
lemma SameCells.pasteCells (h : SameCells s t) (anchor target : Address)
    (captured : List (Address × Cell)) :
    SameCells (s.pasteCells anchor target true captured).1
      (t.pasteCells anchor target true captured).1 :=
  (h.foldl (fun x hs => hs.put x.1 x.2) _).foldl (fun a hs => hs.resubmit a) _

/-! ## The main result -/

/-- The next sheet is a sheet with the captured cells put where they belong when the anchor is put
on the target, with formulas moved along and showing what they evaluate to on the next sheet, and
nothing else changed among the cells; the count tells how many captured cells have a place. -/
structure PastedMoved (s next : Sheet) (anchor target : Address)
    (captured : List (Address × Cell)) (count : Nat) : Prop where
  formula : ∀ x ∈ captured, ∀ f, x.2.formula = some f →
    ∀ b : Address, b.numbers = Address.destination anchor target x.1 →
      let moved := Formula.shifted (distance anchor target) f
      next.cell? b = some ⟨Formula.display (next.evaluate moved), some moved, x.2.style⟩
  plain : ∀ x ∈ captured, x.2.formula = none →
    ∀ b : Address, b.numbers = Address.destination anchor target x.1 → next.cell? b = some x.2
  kept : ∀ b : Address, (∀ x ∈ captured, b.numbers ≠ Address.destination anchor target x.1) →
    next.cell? b = s.cell? b
  counted : count = captured.countP fun x => onGrid (Address.destination anchor target x.1)

/-- Captured cells with distinct addresses are pasted, and their formulas are current. -/
lemma pastedMoved_of_nodup (hnodup : (captured.map Prod.fst).Nodup)
    (h : s.PastesApart anchor target captured)
    (hnext : SameCells (s.pasteCells anchor target true captured).1 next) :
    s.PastedMoved next anchor target captured (placed anchor target true captured).length := by
  rw [pasteCells_moved] at hnext
  have hstored : ∀ {x : Address × Cell} {b : Address}, x ∈ captured →
      b.numbers = Address.destination anchor target x.1 →
      (s.putAll (placed anchor target true captured)).cell? b =
        some (movedCell anchor target x.2) :=
    fun hx hb => cell?_putAll_placed hnodup hx hb
  constructor
  case formula =>
    intro x hx f hf b hb moved
    have hmoved : (movedCell anchor target x.2).formula = some moved := by
      rw [movedCell, hf]
      rfl
    have hmem : b ∈ formulaPlaces (placed anchor target true captured) :=
      mem_formulaPlaces_placed_iff.mpr ⟨moved, x, hx, hb, hmoved⟩
    have hformula : (s.putAll (placed anchor target true captured)).formula? b = some moved := by
      rw [formula?, hstored hx hb]
      exact hmoved
    have hothers : ∀ g, (s.putAll (placed anchor target true captured)).formula? b = some g →
        ∀ c ∈ formulaPlaces (placed anchor target true captured),
          ¬Precedent (s.putAll (placed anchor target true captured)).limits g c :=
      fun g hg c hc => h.not_precedent hnodup hmem hg hc
    rw [hnext.cell?, hnext.evaluate, evaluate_resubmitAll (hothers moved hformula),
      cell?_resubmitAll_of_mem (nodup_formulaPlaces hnodup) hmem hothers,
      cell?_resubmit_self (hstored hx hb) hmoved, movedCell, hf]
    rfl
  case plain =>
    intro x hx hnone b hb
    have hmoved : movedCell anchor target x.2 = x.2 := by
      rw [movedCell, hnone, Option.map_none, ← hnone]
    have hnotMem : b ∉ formulaPlaces (placed anchor target true captured) := by
      -- A formula put there would be the one of the captured cell.
      intro hmem
      obtain ⟨f, x', hx', hb', hf⟩ := mem_formulaPlaces_placed_iff.mp hmem
      have hsame := Option.some.inj ((hstored hx' hb').symm.trans (hstored hx hb))
      rw [hsame, hmoved, hnone] at hf
      exact Option.some_ne_none f hf.symm
    rw [hnext.cell?, cell?_resubmitAll hnotMem, hstored hx hb, hmoved]
  case kept =>
    intro b hb
    have hnone : b ∉ (placed anchor target true captured).map Prod.fst := by
      rw [mem_map_fst_placed_iff]
      rintro ⟨x, hx, hnumbers⟩
      exact hb x hx hnumbers
    have hsubset : formulaPlaces (placed anchor target true captured) ⊆
        (placed anchor target true captured).map Prod.fst :=
      List.map_subset _ (List.filter_subset_self _)
    rw [hnext.cell?, cell?_resubmitAll fun hmem => hnone (hsubset hmem), cell?_putAll hnone]
  case counted => exact length_placed

/-- A clipboard that is not empty is pasted with its formulas moved along. -/
lemma exists_step_paste_moved {spot : String} {kind : Clipboard.Kind} {c : Cell}
    {others : List (Address × Cell)} (hspot : Address.ofText? spot = some target)
    (hclipboard : s.clipboard = some ⟨kind, (anchor, c) :: others⟩) : ∃ next,
      s.step (.paste spot true) =
        (next, .ok (.count (placed anchor target true ((anchor, c) :: others)).length)) ∧
      SameCells (s.pasteCells anchor target true ((anchor, c) :: others)).1 next := by
  obtain ⟨next, hstep, hcells⟩ : ∃ next,
      s.step (.paste spot true) =
        (next, .ok (.count (placed anchor target true ((anchor, c) :: others)).length)) ∧
      next.cells = (s.pasteCells anchor target true ((anchor, c) :: others)).1.cells :=
    exists_step_paste hspot hclipboard
  have hchanges : s.Changes (.paste spot true) (s.step (.paste spot true)).1 :=
    changes_of_step (congrArg Prod.snd hstep)
  have hlimits : (s.step (.paste spot true)).1.limits = s.limits := hchanges.leavesLimits
  rw [hstep] at hlimits
  exact ⟨next, hstep, hcells, hlimits.trans (limits_pasteCells _ _ _ _ _).symm⟩

/-- On every sheet that requests lead to, a clipboard with cells can be pasted onto any target with
its formulas moved along.  When no formula that is pasted mentions the place of one that is pasted,
every pasted formula shows what it evaluates to on the sheet in the end, the other captured cells
are pasted as they are, and every other place is as before.  The same cells are reached from a
clipboard that holds the captured cells in any other order behind the same first one. -/
theorem paste_moved_run (limits : Limits) (requests : List Step) :
    let s := ({ limits } : Sheet).run requests
    ∀ spot target kind anchor cell others, Address.ofText? spot = some target →
      s.clipboard = some ⟨kind, (anchor, cell) :: others⟩ →
      s.PastesApart anchor target ((anchor, cell) :: others) →
      ∃ next count, s.step (.paste spot true) = (next, .ok (.count count)) ∧
        s.PastedMoved next anchor target ((anchor, cell) :: others) count ∧
        ∀ t kind' others', SameCells s t →
          t.clipboard = some ⟨kind', (anchor, cell) :: others'⟩ → others.Perm others' →
          ∃ next', t.step (.paste spot true) = (next', .ok (.count count)) ∧
            next'.cells = next.cells := by
  intro s spot target kind anchor cell others hspot hclipboard hapart
  have hinvariant : s.Invariant := (invariant_empty limits).run requests
  have hnodup : (((anchor, cell) :: others).map Prod.fst).Nodup :=
    hinvariant.captured_nodup _ hclipboard
  obtain ⟨next, hstep, hnext⟩ := exists_step_paste_moved hspot hclipboard
  refine ⟨next, _, hstep, pastedMoved_of_nodup hnodup hapart hnext, ?_⟩
  intro t kind' others' hsame hclipboard' hothers
  have hperm : ((anchor, cell) :: others).Perm ((anchor, cell) :: others') := hothers.cons _
  have hcount : (placed anchor target true ((anchor, cell) :: others)).length =
      (placed anchor target true ((anchor, cell) :: others')).length :=
    (hperm.filterMap _).length_eq
  obtain ⟨next', hstep', hnext'⟩ := exists_step_paste_moved hspot hclipboard'
  have hpasted := hsame.pasteCells anchor target ((anchor, cell) :: others')
  rw [← pasteCells_perm hnodup hapart hperm] at hpasted
  refine ⟨next', ?_, ?_⟩
  · rw [hstep', hcount]
  · rw [hnext'.cells, hpasted.cells, hnext.cells]

/-- Two formulas move one column to the right and mention a number that is pasted along; they were
captured in two orders. -/
theorem paste_moved_run_reordered :
    let upper : Address := ⟨⟨1, by decide, by decide⟩, ⟨3, by decide, by decide⟩⟩
    let lower : Address := ⟨⟨2, by decide, by decide⟩, ⟨3, by decide, by decide⟩⟩
    let filled := [Step.commit "A1" "1", .commit "A2" "2", .commit "B1" "=-A1",
      .commit "B2" "=SUM(A1:A2)"]
    let s := ({} : Sheet).run (filled ++ [.copy ["B1", "B2", "A1"]])
    let t := ({} : Sheet).run (filled ++ [.copy ["B1", "A1", "B2"]])
    ∃ next next', s.step (.paste "C1" true) = (next, .ok (.count 3)) ∧
      t.step (.paste "C1" true) = (next', .ok (.count 3)) ∧ next'.cells = next.cells ∧
      next.cell? upper = some ⟨"-1", some "=-B1", none⟩ ∧
      next.cell? lower = some ⟨"4", some "=SUM(B1:B2)", none⟩ := by
  intro upper lower filled s t
  let first : Address := ⟨⟨1, by decide, by decide⟩, ⟨1, by decide, by decide⟩⟩
  let anchor : Address := ⟨⟨1, by decide, by decide⟩, ⟨2, by decide, by decide⟩⟩
  let below : Address := ⟨⟨2, by decide, by decide⟩, ⟨2, by decide, by decide⟩⟩
  have hminus : Formula.Expr.ofText s.limits (Formula.body "=-B1") =
      .ok (.unary .minus (.cell anchor)) := by
    decide +kernel
  have hsum : Formula.Expr.ofText s.limits (Formula.body "=SUM(B1:B2)") =
      .ok (.call "SUM" [.range ⟨anchor, below⟩]) := by
    decide +kernel
  -- Both formulas mention the second column only, and both are put in the third one.
  have hmentioned : ∀ f ∈ ["=-B1", "=SUM(B1:B2)"], ∀ b, Precedent s.limits f b →
      b.column.val = 2 := by
    intro f hf b hb
    obtain ⟨e, he, hmentions⟩ := hb
    rw [List.mem_pair] at hf
    rcases hf with rfl | rfl
    · rw [hminus] at he
      cases he
      cases hmentions with
      | operand inner =>
        cases inner
        rfl
    · rw [hsum] at he
      cases he
      cases hmentions with
      | argument hmem inner =>
        rw [List.mem_singleton] at hmem
        subst hmem
        cases inner with
        | range hcovered =>
          obtain ⟨-, hle, hle'⟩ := Range.mem_cells.mp hcovered
          exact Nat.le_antisymm hle' hle
  have hputs : ∀ b f, PutsFormula anchor upper [(anchor, ⟨"-1", some "=-A1", none⟩),
      (below, ⟨"3", some "=SUM(A1:A2)", none⟩), (first, ⟨"1", none, none⟩)] b f →
      f ∈ ["=-B1", "=SUM(B1:B2)"] ∧ b.column.val = 3 := by
    rintro b f ⟨x, hx, hb, hf⟩
    have hcolumn := congrArg Prod.fst hb
    simp only [List.mem_cons, List.not_mem_nil, or_false] at hx
    rcases hx with rfl | rfl | rfl
    · have hmoved : (movedCell anchor upper ⟨"-1", some "=-A1", none⟩).formula =
          some "=-B1" := by
        decide +kernel
      rw [Option.some.inj (hf.symm.trans hmoved)]
      exact ⟨List.mem_cons_self, Int.ofNat.inj hcolumn⟩
    · have hmoved : (movedCell anchor upper ⟨"3", some "=SUM(A1:A2)", none⟩).formula =
          some "=SUM(B1:B2)" := by
        decide +kernel
      rw [Option.some.inj (hf.symm.trans hmoved)]
      exact ⟨List.mem_cons_of_mem _ List.mem_cons_self, Int.ofNat.inj hcolumn⟩
    · exact absurd hf.symm (Option.some_ne_none f)
  obtain ⟨next, count, hstep, hpasted, hothers⟩ := paste_moved_run {}
    (filled ++ [.copy ["B1", "B2", "A1"]]) "C1" upper .copy anchor ⟨"-1", some "=-A1", none⟩
    [(below, ⟨"3", some "=SUM(A1:A2)", none⟩), (first, ⟨"1", none, none⟩)]
    (by decide +kernel) (by decide +kernel) fun a f hf b g hg hprecedent => by
      have hcolumn := hmentioned f (hputs a f hf).1 b hprecedent
      rw [(hputs b g hg).2] at hcolumn
      exact absurd hcolumn (by decide)
  obtain rfl : count = 3 := hpasted.counted.trans (by decide)
  obtain ⟨next', hstep', hcells⟩ := hothers t .copy
    [(first, ⟨"1", none, none⟩), (below, ⟨"3", some "=SUM(A1:A2)", none⟩)] ⟨rfl, rfl⟩
    (by decide +kernel) (.swap _ _ [])
  have hnext : (s.step (.paste "C1" true)).1 = next := congrArg Prod.fst hstep
  refine ⟨next, next', hstep, hstep', hcells, ?_, ?_⟩
  · rw [← hnext]
    decide +kernel
  · rw [← hnext]
    decide +kernel

end Sheet

end Spreadsheet
