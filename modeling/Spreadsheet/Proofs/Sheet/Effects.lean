import Spreadsheet.Proofs.Sheet.StoredResults

/-!
# What a step leaves behind

The footprint of a request, `Sheet.Writes`, tells which cells it may change.  The main result,
`Sheet.step_footprint`, adds what a request that succeeds leaves there, on the clipboard and as
limits (`Sheet.Footprint`).  Committing keeps the style of the cell and changing the style keeps the
rest of it, submitting again changes nothing but the value, and what is pasted are the cells as they
were captured, whichever cells the pasted ones replace.

The clipboard is filled by copying and cutting, emptied by pasting what was cut, and changed by
nothing else, so that a run of other requests never reaches it (`Sheet.clipboard_run`).
-/

namespace Spreadsheet

/-- The request fills the clipboard. -/
def Step.captures : Step → Bool
  | .copy _ | .cut _ => true
  | _ => false

/-- The request pastes the clipboard. -/
def Step.pastes : Step → Bool
  | .paste _ _ => true
  | _ => false

namespace Sheet

variable {s next : Sheet} {a b : Address}

/-! ## Cells that are submitted -/

/-- At an address nothing has changed, or the value of a cell with a formula. -/
inductive Revalued : Option Cell → Option Cell → Prop
  | same {c : Option Cell} : Revalued c c
  | value {c : Cell} {value : String} (hformula : c.formula ≠ none) :
      Revalued (some c) (some { c with value })

/-- A cell with a formula may get one value after the other. -/
lemma Revalued.trans {c d e : Option Cell} (h : Revalued c d) (h' : Revalued d e) :
    Revalued c e := by
  cases h with
  | same => exact h'
  | value hformula =>
    cases h' with
    | same => exact .value hformula
    | value => exact .value hformula

/-- Submitting again changes no more than the value of a cell with a formula. -/
lemma revalued_resubmit (s : Sheet) (b a : Address) :
    Revalued (s.cell? a) ((s.resubmit b).1.cell? a) := by
  rcases s.resubmit_cases b with hsame | ⟨c, value, hcell, hformula, hput⟩
  · rw [hsame]
    exact .same
  · rw [hput, cell?_put]
    split
    case isTrue hba =>
      subst hba
      rw [hcell]
      exact .value hformula
    case isFalse => exact .same

/-- Submitting cells again one after the other changes no more than the values of cells with
formulas. -/
lemma revalued_resubmitAll (s : Sheet) (addresses : List Address) (a : Address) :
    Revalued (s.cell? a) ((s.resubmitAll addresses).cell? a) := by
  induction addresses generalizing s with
  | nil => exact .same
  | cons b addresses ih => exact (revalued_resubmit s b a).trans (ih (s.resubmit b).1)

/-- A commit keeps the style of the cell, and the formula of the cell is what was committed or there
is none. -/
lemma exists_cell_commit (s : Sheet) (a : Address) (input : String) :
    ∃ value, (s.commit a input).1.cell? a =
      some ⟨value, if isFormula input then some input else none, (s.cell? a).bind Cell.style⟩ := by
  obtain ⟨value, hput⟩ := s.exists_put_commit a input
  exact ⟨value, by rw [hput, cell?_put, if_pos rfl]⟩

/-! ## Cells that are pasted -/

/-- Pasting with the anchor on a target puts the cell at the address, a captured one with its
formula moved along when that was asked for. -/
def Pastes (s : Sheet) (target : Address) (adjust : Bool) (a : Address) (c : Cell) : Prop :=
  ∃ kind anchor cell others, s.clipboard = some ⟨kind, (anchor, cell) :: others⟩ ∧
    ∃ captured ∈ (anchor, cell) :: others,
      placed? (distance anchor target) adjust captured.1 captured.2 = some (a, c)

/-- Where captured cells are put, one of them lies afterwards, and it is evaluated again only when
its formula was moved along. -/
lemma exists_placed_pasteCells {anchor target : Address} {adjust : Bool}
    {cells : List (Address × Cell)} (h : ∃ captured ∈ cells, captured.1.offset?
      (distance anchor target).columns (distance anchor target).rows = some a) :
    ∃ c, (∃ captured ∈ cells,
        placed? (distance anchor target) adjust captured.1 captured.2 = some (a, c)) ∧
      Revalued (some c) ((s.pasteCells anchor target adjust cells).1.cell? a) ∧
        (adjust = false → (s.pasteCells anchor target adjust cells).1.cell? a = some c) := by
  obtain ⟨addresses, hpaste, -, hverbatim⟩ := s.exists_pasteCells_eq anchor target adjust cells
  rw [hpaste]
  rcases s.cell?_putAll_cases (placed anchor target adjust cells) a with
    ⟨c, hmem, hcell⟩ | ⟨hnone, -⟩
  · refine ⟨c, List.mem_filterMap.mp hmem, ?_, ?_⟩
    · rw [← hcell]
      exact revalued_resubmitAll _ _ a
    · intro hadjust
      rw [hverbatim hadjust, ← hcell]
      rfl
  · obtain ⟨captured, hcaptured, hoffset⟩ := h
    obtain ⟨c, hc⟩ : ∃ c,
        placed? (distance anchor target) adjust captured.1 captured.2 = some (a, c) := by
      rw [placed?, hoffset]
      exact ⟨_, rfl⟩
    have hmem : (a, c) ∈ placed anchor target adjust cells :=
      List.mem_filterMap.mpr ⟨captured, hcaptured, hc⟩
    exact absurd (List.mem_map_of_mem hmem) hnone

/-! ## Footprints -/

/-- What the request leaves at an address of its footprint. -/
def Leaves (s : Sheet) (a : Address) (after : Option Cell) : Step → Prop
  | .commit _ input => ∃ value, after =
      some ⟨value, if isFormula input then some input else none, (s.cell? a).bind Cell.style⟩
  | .resubmit _ => Revalued (s.cell? a) after
  | .clear _ | .cut _ => after = none
  | .restyle _ _ => ∃ style, after = some { (s.cell? a).getD {} with style := some style }
  | .paste spot adjust => ∃ target c, Address.ofText? spot = some target ∧
      s.Pastes target adjust a c ∧ Revalued (some c) after ∧ (adjust = false → after = some c)
  | .importBytes _ | .importFile _ _ => ∃ value, after = some (.plain value)
  | _ => after = s.cell? a

/-- What the request leaves on the clipboard. -/
def LeavesClipboard (s : Sheet) (after : Option Clipboard) : Step → Prop
  | .copy spots => ∃ addresses, spots.mapM place = .ok addresses ∧
      after = some ⟨.copy, s.capture addresses⟩
  | .cut spots => ∃ addresses, spots.mapM place = .ok addresses ∧
      after = some ⟨.cut, s.capture addresses⟩
  | .paste _ _ => after = s.clipboard.filter (·.kind = .copy)
  | _ => after = s.clipboard

/-- The limits that the request leaves in force. -/
def LeavesLimits (s : Sheet) (after : Limits) : Step → Prop
  | .setLimits given => newLimits given = .ok after
  | _ => after = s.limits

/-- The next sheet differs from a sheet by what the request does, and in nothing else. -/
structure Footprint (s : Sheet) (request : Step) (next : Sheet) : Prop where
  outside : ∀ a, ¬s.Writes a request → next.cell? a = s.cell? a
  inside : ∀ a, s.Writes a request → s.Leaves a (next.cell? a) request
  clipboard : s.LeavesClipboard next.clipboard request
  limits : s.LeavesLimits next.limits request

/-- At every address of its footprint, a request leaves what its kind says. -/
lemma Changes.leaves {request : Step} (h : s.Changes request next) (hwrites : s.Writes a request) :
    s.Leaves a (next.cell? a) request := by
  -- The address that was read is the one that the footprint names.
  have hsame : ∀ {spot : String} {b : Address}, Address.ofText? spot = some b →
      Address.ofText? spot = some a → b = a :=
    fun hb ha => Option.some.inj (hb.symm.trans ha)
  have htexts : ∀ cells : List (Address × String), a ∈ cells.map Prod.fst →
      ∃ value, (s.putTexts cells).cell? a = some (.plain value) := by
    intro cells hmem
    rcases s.cell?_putTexts cells a with ⟨value, -, hcell⟩ | ⟨hnone, -⟩
    · exact ⟨value, hcell⟩
    · obtain ⟨⟨b, value⟩, hvalue, rfl⟩ := List.mem_map.mp hmem
      exact absurd hvalue (hnone value)
  cases h with
  | commit hspot =>
    obtain rfl := hsame hspot hwrites
    exact s.exists_cell_commit _ _
  | resubmit hspot =>
    obtain rfl := hsame hspot hwrites
    exact revalued_resubmit s _ _
  | clear hspot =>
    obtain rfl := hsame hspot hwrites
    exact (cell?_remove s _ _).trans (if_pos rfl)
  | restyle hspot =>
    obtain rfl := hsame hspot hwrites
    exact ⟨_, (cell?_put s _ _ _).trans (if_pos rfl)⟩
  | cut hspots =>
    obtain ⟨addresses, haddresses, hmem⟩ := hwrites
    cases hspots.symm.trans haddresses
    exact cell?_cut_of_mem hmem
  | paste hspot hclipboard =>
    obtain ⟨target, htarget, kind, anchor, cell, others, hboard, hcaptured⟩ := hwrites
    obtain rfl := Option.some.inj (hspot.symm.trans htarget)
    cases hclipboard.symm.trans hboard
    obtain ⟨c, hplaced, hrevalued, hverbatim⟩ := exists_placed_pasteCells hcaptured
    exact ⟨_, c, hspot, ⟨_, _, _, _, hboard, hplaced⟩, hrevalued, hverbatim⟩
  | importBytes hread =>
    obtain ⟨cells, hcells, hmem⟩ := hwrites
    cases hread.symm.trans hcells
    exact htexts _ hmem
  | importFile hcontent hread =>
    obtain ⟨content, cells, hcontent', hcells, hmem⟩ := hwrites
    cases hcontent.symm.trans hcontent'
    cases hread.symm.trans hcells
    exact htexts _ hmem
  | copy | setLimits => exact absurd hwrites id
  | look hlooks =>
    cases request with
    | commit | resubmit | clear | restyle | cut | paste | importBytes | importFile => cases hlooks
    | _ => exact absurd hwrites id

/-- A request leaves on the clipboard what its kind says. -/
lemma Changes.leavesClipboard {request : Step} (h : s.Changes request next) :
    s.LeavesClipboard next.clipboard request := by
  cases h with
  | commit => exact clipboard_commit s _ _
  | resubmit => exact clipboard_resubmit s _
  | copy hspots => exact ⟨_, hspots, rfl⟩
  | cut hspots => exact ⟨_, hspots, clipboard_cut s _⟩
  | importBytes | importFile => exact clipboard_putTexts s _
  | clear | restyle | paste | setLimits => rfl
  | look hlooks =>
    cases request with
    | copy | cut | paste => cases hlooks
    | _ => rfl

/-- A request leaves the limits that its kind says in force. -/
lemma Changes.leavesLimits {request : Step} (h : s.Changes request next) :
    s.LeavesLimits next.limits request := by
  cases h with
  | commit => exact limits_commit s _ _
  | resubmit => exact limits_resubmit s _
  | cut => exact limits_cut s _
  | paste => exact limits_pasteCells s _ _ _ _
  | importBytes | importFile => exact limits_putTexts s _
  | setLimits hgiven => exact hgiven
  | clear | restyle | copy => rfl
  | look hlooks =>
    cases request with
    | setLimits => cases hlooks
    | _ => rfl

/-- Whatever a request changes is in its footprint. -/
lemma Changes.footprint {request : Step} (h : s.Changes request next) :
    s.Footprint request next where
  outside _ hwrites := h.cell?_of_not_writes hwrites
  inside _ hwrites := h.leaves hwrites
  clipboard := h.leavesClipboard
  limits := h.leavesLimits

/-! ## Runs and the clipboard -/

/-- What is on the clipboard stays there unless it is replaced, or was cut and is pasted. -/
lemma clipboard_step {request : Step} (hcaptures : request.captures = false)
    (hpastes : (∀ board ∈ s.clipboard, board.kind = .copy) ∨ request.pastes = false) :
    (s.step request).1.clipboard = s.clipboard := by
  rcases s.step_cases request with hchanges | hsame
  · have hleaves := hchanges.leavesClipboard
    cases request with
    | copy | cut => cases hcaptures
    | paste =>
      rcases hpastes with hkind | hfalse
      · refine hleaves.trans ?_
        cases hclipboard : s.clipboard with
        | none => rfl
        | some board => exact if_pos (decide_eq_true (hkind board hclipboard))
      · cases hfalse
    | _ => exact hleaves
  · rw [hsame]

/-- What is on the clipboard stays there over a run that does not fill it again, unless it was cut
and is pasted. -/
lemma clipboard_run {requests : List Step}
    (hcaptures : ∀ request ∈ requests, request.captures = false)
    (hpastes : (∀ board ∈ s.clipboard, board.kind = .copy) ∨
      ∀ request ∈ requests, request.pastes = false) :
    (s.run requests).clipboard = s.clipboard := by
  induction requests generalizing s with
  | nil => rfl
  | cons request requests ih =>
    rw [List.forall_mem_cons] at hcaptures
    have hpastes' : (∀ board ∈ s.clipboard, board.kind = .copy) ∨
        request.pastes = false ∧ ∀ request ∈ requests, request.pastes = false :=
      hpastes.imp_right List.forall_mem_cons.mp
    have hstep : (s.step request).1.clipboard = s.clipboard :=
      clipboard_step hcaptures.1 (hpastes'.imp_right And.left)
    have hrun : ((s.step request).1.run requests).clipboard = (s.step request).1.clipboard := by
      refine ih hcaptures.2 ?_
      rw [hstep]
      exact hpastes'.imp_right And.right
    exact hrun.trans hstep

/-- A step that succeeds changes the cells of its footprint, the clipboard and the limits as its
request asks for, and nothing else.  What it leaves on the clipboard is then kept by every run of
requests that neither copy nor cut nor, unless it was copied, paste, whatever they do to the cells
that were captured. -/
theorem step_footprint {s : Sheet} {request : Step} {outcome : Outcome}
    (h : (s.step request).2 = .ok outcome) :
    s.Footprint request (s.step request).1 ∧
      ∀ requests : List Step, (∀ later ∈ requests, later.captures = false) →
        ((∀ board ∈ (s.step request).1.clipboard, board.kind = .copy) ∨
          ∀ later ∈ requests, later.pastes = false) →
        ((s.step request).1.run requests).clipboard = (s.step request).1.clipboard :=
  ⟨(changes_of_step h).footprint, fun _ => clipboard_run⟩

/-- Two cells are pasted onto one of them, their formula moved along, and the cell that was copied
is then edited. -/
theorem step_footprint_overlap :
    let s := ({} : Sheet).run [.commit "A1" "5", .commit "B1" "=A1+1", .copy ["A1", "B1"]]
    let next := (s.step (.paste "B1" true)).1
    s.Footprint (.paste "B1" true) next ∧ next.toList.map (fun (_, c) => (c.value, c.formula)) =
        [("5", none), ("5", none), ("6", some "=B1+1")] ∧
      (next.run [.commit "A1" "9", .clear "B1"]).clipboard = s.clipboard := by
  intro s next
  have hcount : (s.step (.paste "B1" true)).2.toBool = true := by decide +kernel
  obtain ⟨outcome, houtcome⟩ : ∃ outcome, (s.step (.paste "B1" true)).2 = .ok outcome := by
    generalize (s.step (.paste "B1" true)).2 = result at hcount
    cases result with
    | error e => cases hcount
    | ok outcome => exact ⟨outcome, rfl⟩
  obtain ⟨hfootprint, hrun⟩ := step_footprint houtcome
  refine ⟨hfootprint, by decide +kernel, ?_⟩
  have hcopied : s.clipboard.map Clipboard.kind = some .copy := by decide +kernel
  have hkept : next.clipboard = s.clipboard := by decide +kernel
  rw [← hkept]
  refine hrun _ (by decide) (.inl fun board hboard => ?_)
  obtain ⟨copied, hcopied, hkind⟩ := Option.map_eq_some_iff.mp hcopied
  rw [hkept] at hboard
  rw [Option.some.inj (hboard.symm.trans hcopied), hkind]

end Sheet

end Spreadsheet
