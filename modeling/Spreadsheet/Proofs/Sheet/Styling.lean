import Spreadsheet.Proofs.Cell.BlankCells
import Spreadsheet.Proofs.Sheet.StoredResults

/-!
# Styles do not influence results

Changing a style may store a cell that was missing, without a text.  The main result,
`Sheet.computed_filter_restyles`, says that nothing computed tells the difference: when all changes
of style are left out of a run that pastes nothing, every other request that computes something
gives what it gave, also where a formula or a chart reads a range in which a change of style stored
blank cells.

The sheets of the two runs differ in their styles and in which blank cells they store.  They have
the same limits, and every address shows the same text and has the same formula
(`Sheet.Resembles`).  This is all that a formula or a chart sees of a sheet, and every request but
pasting keeps it (`Sheet.Resembles.step`).
-/

namespace Spreadsheet

/-- The request changes a style. -/
def Step.restyles : Step → Bool
  | .restyle _ _ => true
  | _ => false

/-- The request gives something that is computed from texts and formulas, and no stored cell, text
of the whole sheet or number of cells on the clipboard. -/
def Step.computes : Step → Bool
  | .commit _ _ | .resubmit _ | .evaluate _ | .display _ | .formula _ | .importBytes _
  | .importFile _ _ | .chart _ | .setLimits _ => true
  | _ => false

namespace Sheet

/-! ## Sheets that show the same -/

/-- Sheets with the same limits that show the same text and have the same formula at every address.
They may differ in styles, in their clipboards, and in which blank cells are stored. -/
structure Resembles (s t : Sheet) : Prop where
  limits : s.limits = t.limits
  display : ∀ a, s.display a = t.display a
  formula : ∀ a, s.formula? a = t.formula? a

variable {s t u : Sheet}

lemma Resembles.refl (s : Sheet) : s.Resembles s :=
  ⟨rfl, fun _ => rfl, fun _ => rfl⟩

lemma Resembles.symm (h : s.Resembles t) : t.Resembles s :=
  ⟨h.limits.symm, fun a => (h.display a).symm, fun a => (h.formula a).symm⟩

lemma Resembles.trans (h : s.Resembles t) (h' : t.Resembles u) : s.Resembles u :=
  ⟨h.limits.trans h'.limits, fun a => (h.display a).trans (h'.display a),
    fun a => (h.formula a).trans (h'.formula a)⟩

/-- A formula sees of a cell what its text says, where a missing cell is like one with the empty
text. -/
lemma content_snapshot (s : Sheet) (a : Address) :
    s.snapshot.content a = Content.ofText (s.display a) := by
  unfold Snapshot.content snapshot display
  cases s.cell? a with
  | none => decide +kernel
  | some c => rfl

/-- Formulas have the same outcome on sheets that show the same: they see no style, and a blank cell
is like a missing one. -/
lemma Resembles.evaluate (h : s.Resembles t) (f : String) : s.evaluate f = t.evaluate f := by
  apply evaluate_congr h.limits
  intro b _
  rw [content_snapshot, content_snapshot, h.display]

/-- Charts of sheets that show the same are the same, since they read the snapshot through texts
alone. -/
lemma Resembles.extract (h : s.Resembles t) (r : Range) :
    Series.extract s.snapshot r = Series.extract t.snapshot r :=
  Series.extract_congr h.display r

/-! ## Changes -/

/-- Storing cells with the same value and formula keeps sheets alike, whatever their styles are. -/
lemma Resembles.put (h : s.Resembles t) (a : Address) {c d : Cell} (hvalue : c.value = d.value)
    (hformula : c.formula = d.formula) : (s.put a c).Resembles (t.put a d) where
  limits := h.limits
  display b := by rw [display_put, display_put, hvalue, h.display]
  formula b := by rw [formula?_put, formula?_put, hformula, h.formula]

/-- Removing a cell from both sheets keeps them alike. -/
lemma Resembles.remove (h : s.Resembles t) (a : Address) :
    (s.remove a).Resembles (t.remove a) where
  limits := h.limits
  display b := by rw [display_remove, display_remove, h.display]
  formula b := by rw [formula?_remove, formula?_remove, h.formula]

/-- Copying keeps sheets alike: the clipboard is not shown. -/
lemma Resembles.copy (h : s.Resembles t) (addresses : List Address) :
    (s.copy addresses).Resembles (t.copy addresses) :=
  ⟨h.limits, h.display, h.formula⟩

/-- Cutting the same addresses keeps sheets alike. -/
lemma Resembles.cut (h : s.Resembles t) (addresses : List Address) :
    (s.cut addresses).Resembles (t.cut addresses) := by
  have hfold : ∀ {s t : Sheet}, s.Resembles t →
      (addresses.foldl Sheet.remove s).Resembles (addresses.foldl Sheet.remove t) := by
    induction addresses with
    | nil => exact fun h => h
    | cons a addresses ih => exact fun h => ih (h.remove a)
  exact hfold ⟨h.limits, h.display, h.formula⟩

/-- Storing the same texts in two sheets that are alike keeps them alike. -/
lemma Resembles.putTexts (h : s.Resembles t) (cells : List (Address × String)) :
    (s.putTexts cells).Resembles (t.putTexts cells) := by
  induction cells generalizing s t with
  | nil => exact h
  | cons cell cells ih => exact ih (h.put cell.1 rfl rfl)

/-- A restyled sheet is like the one before, since styles are not shown. -/
lemma resembles_restyle (s : Sheet) (a : Address) (p : StylePatch) : (s.restyle a p).Resembles s :=
  ⟨rfl, display_restyle s a p, formula?_restyle s a p⟩

/-- The same commit keeps sheets alike and has the same outcome. -/
lemma Resembles.commit (h : s.Resembles t) (a : Address) (input : String) :
    (s.commit a input).1.Resembles (t.commit a input).1 ∧
      (s.commit a input).2 = (t.commit a input).2 := by
  unfold Sheet.commit
  dsimp only
  rw [h.evaluate]
  split
  · exact ⟨h.put a rfl rfl, rfl⟩
  · exact ⟨h.put a rfl rfl, rfl⟩

/-- Submitting the same address again keeps sheets alike and has the same outcome. -/
lemma Resembles.resubmit (h : s.Resembles t) (a : Address) :
    (s.resubmit a).1.Resembles (t.resubmit a).1 ∧ (s.resubmit a).2 = (t.resubmit a).2 := by
  rw [resubmit_eq, resubmit_eq, h.formula]
  cases t.formula? a with
  | none => exact ⟨h, rfl⟩
  | some f =>
    dsimp only
    rw [h.evaluate]
    exact ⟨h.put a rfl rfl, rfl⟩

/-! ## Requests -/

/-- Both requests fail for the same reason, or they lead to sheets that show the same, with the same
outcome when it is asked for. -/
def Alike (outcomes : Bool) (x y : Except SheetError (Sheet × Outcome)) : Prop :=
  match x, y with
  | .ok (s, outcome), .ok (t, outcome') => s.Resembles t ∧ (outcomes = true → outcome = outcome')
  | .error e, .error e' => e = e'
  | _, _ => False

/-- A check in front does not depend on the sheet. -/
lemma Alike.check {α : Type} {outcomes : Bool} (c : Except SheetError α)
    {f g : α → Except SheetError (Sheet × Outcome)} (h : ∀ a, Alike outcomes (f a) (g a)) :
    Alike outcomes (c >>= f) (c >>= g) := by
  cases c with
  | error e => rfl
  | ok a => exact h a

/-- Where outcomes do not matter, sheets that show the same are enough. -/
lemma Alike.of_resembles (h : s.Resembles t) (outcome outcome' : Outcome) :
    Alike false (.ok (s, outcome)) (.ok (t, outcome')) :=
  ⟨h, fun hfalse => absurd hfalse Bool.false_ne_true⟩

/-- Importing the same bytes keeps sheets alike, or fails on both of them for the same reason. -/
lemma Resembles.importCsv (h : s.Resembles t) (bytes : List UInt8) (outcomes : Bool) :
    Alike outcomes
      ((s.importCsv bytes).mapError .csv >>= fun done => .ok (done.1, .count done.2))
      ((t.importCsv bytes).mapError .csv >>= fun done => .ok (done.1, .count done.2)) := by
  unfold Sheet.importCsv
  cases Csv.read bytes with
  | error e => rfl
  | ok cells => exact ⟨h.putTexts cells, fun _ => rfl⟩

/-- On sheets that show the same, every request but pasting and writing a file is carried out
alike. -/
lemma Resembles.tryStep (h : s.Resembles t) {request : Step}
    (hpaste : ∀ spot adjust, request ≠ .paste spot adjust)
    (hexport : ∀ path files, request ≠ .exportFile path files) :
    Alike request.computes (s.tryStep request) (t.tryStep request) := by
  cases request with
  | commit spot input =>
    apply Alike.check
    intro a
    obtain ⟨hnext, houtcome⟩ := h.commit a input
    exact ⟨hnext, fun _ => congrArg evaluated houtcome⟩
  | resubmit spot =>
    apply Alike.check
    intro a
    obtain ⟨hnext, houtcome⟩ := h.resubmit a
    exact ⟨hnext, fun _ => congrArg evaluated houtcome⟩
  | evaluate f => exact ⟨h, fun _ => congrArg Outcome.evaluation (h.evaluate f)⟩
  | display spot => exact .check _ fun a => ⟨h, fun _ => congrArg Outcome.text (h.display a)⟩
  | formula spot =>
    apply Alike.check
    intro a
    rw [h.formula]
    cases t.formula? a with
    | none => exact ⟨h, fun _ => rfl⟩
    | some f => exact ⟨h, fun _ => rfl⟩
  | cell spot => exact .check _ fun _ => .of_resembles h _ _
  | clear spot => exact .check _ fun a => .of_resembles (h.remove a) _ _
  | restyle spot p =>
    apply Alike.check
    intro a
    have hrestyle : (s.restyle a p).Resembles (t.restyle a p) :=
      (resembles_restyle s a p).trans (h.trans (resembles_restyle t a p).symm)
    exact .of_resembles hrestyle _ _
  | copy spots => exact .check _ fun addresses => .of_resembles (h.copy addresses) _ _
  | cut spots => exact .check _ fun addresses => .of_resembles (h.cut addresses) _ _
  | paste spot adjust => exact absurd rfl (hpaste spot adjust)
  | importBytes bytes => exact h.importCsv bytes _
  | importFile path files =>
    have hstep (u : Sheet) : u.tryStep (.importFile path files) =
        ((files.read (within path)).mapError .file >>= fun content =>
          (u.importCsv content.data.toList).mapError .csv >>= fun done =>
            .ok (done.1, .count done.2)) :=
      bind_assoc _ _ _
    rw [hstep, hstep]
    exact .check _ fun content => h.importCsv content.data.toList _
  | exportFile path files => exact absurd rfl (hexport path files)
  | chart range => exact .check _ fun r => ⟨h, fun _ => congrArg Outcome.points (h.extract r)⟩
  | setLimits given =>
    cases given with
    | none => exact ⟨⟨rfl, h.display, h.formula⟩, fun _ => rfl⟩
    | some given =>
      simp only [Sheet.tryStep]
      cases Limits.ofJson? given with
      | none => rfl
      | some limits => exact ⟨⟨rfl, h.display, h.formula⟩, fun _ => rfl⟩
  | exportText | json => exact .of_resembles h _ _

/-- Every request but pasting keeps the resemblance of two sheets, and gives the same on both when
it computes something. -/
lemma Resembles.step (h : s.Resembles t) {request : Step}
    (hpaste : ∀ spot adjust, request ≠ .paste spot adjust) :
    (s.step request).1.Resembles (t.step request).1 ∧
      (request.computes = true → (s.step request).2 = (t.step request).2) := by
  rw [step_eq_tryStep, step_eq_tryStep]
  by_cases hexport : ∃ path files, request = .exportFile path files
  · -- Writing a file changes no sheet, whatever is written.
    obtain ⟨path, files, rfl⟩ := hexport
    have hstep (u : Sheet) : u.tryStep (.exportFile path files) =
        (u.exportFile files (within path) >>= fun _ => .ok (u, .text u.exportCsv)) :=
      rfl
    rw [hstep, hstep]
    cases s.exportFile files (within path) <;> cases t.exportFile files (within path) <;>
      exact ⟨h, fun hfalse => absurd hfalse Bool.false_ne_true⟩
  · have halike := h.tryStep hpaste fun path files heq => hexport ⟨path, files, heq⟩
    generalize s.tryStep request = x at halike ⊢
    generalize t.tryStep request = y at halike ⊢
    cases x with
    | error e =>
      cases y with
      | error e' => exact ⟨h, fun _ => congrArg Except.error halike⟩
      | ok done' => exact absurd halike id
    | ok done =>
      cases y with
      | error e' => exact absurd halike id
      | ok done' => exact ⟨halike.1, fun hc => congrArg Except.ok (halike.2 hc)⟩

/-- A request that restyles changes nothing that is shown. -/
lemma resembles_step_of_restyles {request : Step} (hstyle : request.restyles = true) :
    (s.step request).1.Resembles s := by
  obtain ⟨spot, p, rfl⟩ : ∃ spot p, request = .restyle spot p := by
    cases request with
    | restyle spot p => exact ⟨spot, p, rfl⟩
    | _ => cases hstyle
  rcases s.step_restyle_cases spot p with hsame | ⟨a, hrestyle⟩
  · rw [hsame]
    exact .refl s
  · rw [hrestyle]
    exact resembles_restyle s a p

/-! ## Runs -/

/-- The requests of a run that compute something, and what they give. -/
def computed (s : Sheet) : List Step → List (Step × Except SheetError Outcome)
  | [] => []
  | request :: requests =>
    let others := (s.step request).1.computed requests
    if request.computes then (request, (s.step request).2) :: others else others

/-- Leaving out the changes of style keeps what a run computes, also when it starts on another sheet
that shows the same. -/
lemma Resembles.computed_filter {requests : List Step} (h : s.Resembles t)
    (hpaste : ∀ spot adjust, Step.paste spot adjust ∉ requests) :
    s.computed (requests.filter (!·.restyles)) = t.computed requests := by
  induction requests generalizing s t with
  | nil => rfl
  | cons request requests ih =>
    have hothers : ∀ spot adjust, Step.paste spot adjust ∉ requests := by
      intro spot adjust hmem
      exact hpaste spot adjust (List.mem_cons_of_mem _ hmem)
    by_cases hstyle : request.restyles = true
    · have hcomputes : request.computes = false := by
        cases request with
        | restyle => rfl
        | _ => cases hstyle
      have hnext : s.Resembles (t.step request).1 :=
        h.trans (resembles_step_of_restyles hstyle).symm
      rw [List.filter_cons_of_neg (by simp [hstyle]), computed, hcomputes]
      exact ih hnext hothers
    · have hother : ∀ spot adjust, request ≠ .paste spot adjust := by
        rintro spot adjust rfl
        exact hpaste spot adjust List.mem_cons_self
      obtain ⟨hnext, houtcome⟩ := h.step hother
      rw [List.filter_cons_of_pos (by simp [hstyle]), computed, computed, ih hnext hothers]
      split
      case isTrue hcomputes => rw [houtcome hcomputes]
      case isFalse => rfl

/-- When all changes of style are left out of a run that pastes nothing, the requests that compute
something, the same ones in the same order, give the same. -/
theorem computed_filter_restyles {s : Sheet} {requests : List Step}
    (hpaste : ∀ spot adjust, Step.paste spot adjust ∉ requests) :
    s.computed (requests.filter (!·.restyles)) = s.computed requests :=
  (Resembles.refl s).computed_filter hpaste

/-- A blank cell stored by a change of style is read by a sum, joined to it and charted. -/
theorem computed_filter_restyles_blank :
    let below : Address := ⟨⟨2, by decide, by decide⟩, ⟨1, by decide, by decide⟩⟩
    let requests : List Step := [.commit "A1" "3", .restyle "A2" { bold := some true },
      .commit "B1" "=SUM(A1:A2)&A2", .chart "A1:A2"]
    let unstyled := requests.filter (!·.restyles)
    ({} : Sheet).computed unstyled = ({} : Sheet).computed requests ∧
      (({} : Sheet).run requests).cell? below ≠ none ∧
        (({} : Sheet).run unstyled).cell? below = none := by
  intro below requests unstyled
  refine ⟨computed_filter_restyles ?_, ?_, ?_⟩
  · intro spot adjust hmem
    simp [requests] at hmem
  · decide +kernel
  · decide +kernel

end Sheet

end Spreadsheet
