import Spreadsheet.Proofs.Formula.Locality
import Spreadsheet.Proofs.Sheet.Footprint

/-!
# Stored results stay current

A formula is evaluated when it is committed, and afterwards the cell only shows the stored text.
The main result, `resubmit_run_of_commit`, says for how long that text is up to date: as long as no
request overwrites the cell and what formulas see of the precedents is the same as at the commit,
whatever else has been done to the sheet, the cell shows what the formula evaluates to, and
submitting it again gives the same outcome and changes nothing.

Two facts are put together.  A run that spares a cell keeps its text and its formula
(`Sheet.Spares.run`), by induction on the requests from the footprint of a single one; and a formula
sees nothing of a sheet but its limits and the content of its precedents (`Sheet.evaluate_congr`).
-/

namespace Spreadsheet

/-- The formula text, read under the limits, mentions the address. -/
def Precedent (limits : Limits) (formula : String) (a : Address) : Prop :=
  ∃ e, Formula.Expr.ofText limits (Formula.body formula) = .ok e ∧ e.Mentions a

namespace Sheet

/-! ## Runs that spare a cell -/

/-- The sheet after some requests, one after another. -/
def run (s : Sheet) (requests : List Step) : Sheet :=
  requests.foldl (fun s request => (s.step request).1) s

/-- The request may change the text or the formula at the address, or remove them. -/
def Overwrites (s : Sheet) (a : Address) (request : Step) : Prop :=
  s.Writes a request ∧ ∀ spot patch, request ≠ .restyle spot patch

/-- No request of the run overwrites the address. -/
def Spares (a : Address) : Sheet → List Step → Prop
  | _, [] => True
  | s, request :: requests => ¬s.Overwrites a request ∧ Spares a (s.step request).1 requests

variable {s : Sheet} {a : Address}

/-- A request that does not overwrite a cell keeps its text and its formula. -/
lemma display_step {request : Step} (h : ¬s.Overwrites a request) :
    (s.step request).1.display a = s.display a ∧
      (s.step request).1.formula? a = s.formula? a := by
  by_cases hstyle : ∃ spot patch, request = .restyle spot patch
  · obtain ⟨spot, patch, rfl⟩ := hstyle
    rcases s.step_restyle_cases spot patch with hsame | ⟨b, hrestyle⟩
    · rw [hsame]
      exact ⟨rfl, rfl⟩
    · rw [hrestyle]
      exact ⟨display_restyle s b patch a, formula?_restyle s b patch a⟩
  · have hwrites : ¬s.Writes a request :=
      fun hw => h ⟨hw, fun spot patch heq => hstyle ⟨spot, patch, heq⟩⟩
    rw [display, display, formula?, formula?, cell?_step hwrites]
    exact ⟨rfl, rfl⟩

/-- A run that spares a cell keeps its text and its formula. -/
lemma Spares.run {requests : List Step} (h : Spares a s requests) :
    (s.run requests).display a = s.display a ∧ (s.run requests).formula? a = s.formula? a := by
  induction requests generalizing s with
  | nil => exact ⟨rfl, rfl⟩
  | cons request requests ih =>
    obtain ⟨hdisplay, hformula⟩ := display_step h.1
    obtain ⟨hdisplay', hformula'⟩ := ih h.2
    exact ⟨hdisplay'.trans hdisplay, hformula'.trans hformula⟩

/-! ## What a formula sees -/

/-- Sheets with the same limits and the same content of the precedents give a formula the same
outcome. -/
lemma evaluate_congr {t : Sheet} {f : String} (hlimits : t.limits = s.limits)
    (hcontent : ∀ b, Precedent s.limits f b → t.snapshot.content b = s.snapshot.content b) :
    t.evaluate f = s.evaluate f := by
  unfold evaluate
  rw [hlimits]
  exact Formula.evaluate_congr fun e he b hb => hcontent b ⟨e, he, hb⟩

/-! ## Commits -/

/-- The commit of a formula stores the formula and the text that shows its outcome, and keeps the
style. -/
lemma commit_of_isFormula {f : String} (hf : isFormula f = true) : s.commit a f =
    (s.put a ⟨Formula.display (s.evaluate f), some f, (s.cell? a).bind Cell.style⟩,
      some (s.evaluate f)) := by
  unfold commit
  dsimp only
  rw [if_pos hf]

/-- Submitting the formula of an address again, told by the formula alone. -/
lemma resubmit_eq (s : Sheet) (a : Address) : s.resubmit a = match s.formula? a with
    | some f => (s.put a ⟨Formula.display (s.evaluate f), some f, (s.cell? a).bind Cell.style⟩,
        some (s.evaluate f))
    | none => (s, none) := by
  unfold resubmit formula?
  match s.cell? a with
  | none => rfl
  | some ⟨_, none, _⟩ => rfl
  | some ⟨_, some _, _⟩ => rfl

/-- Storing a cell where it is stored already changes nothing. -/
lemma put_eq_self {c : Cell} (h : s.cell? a = some c) : s.put a c = s := by
  refine eq_of_cell?_eq (fun b => ?_) rfl rfl
  rw [cell?_put]
  split
  case isTrue hab => rw [← hab, h]
  case isFalse => rfl

/-- A formula whose text is what it evaluates to is submitted again without effect. -/
lemma resubmit_eq_self {f : String} (hformula : s.formula? a = some f)
    (hdisplay : s.display a = Formula.display (s.evaluate f)) :
    s.resubmit a = (s, some (s.evaluate f)) := by
  obtain ⟨⟨value, formula, style⟩, hcell, hf⟩ := Option.bind_eq_some_iff.mp hformula
  obtain rfl : formula = some f := hf
  have hvalue : s.display a = value := by
    rw [display, hcell]
    rfl
  have hput : s.put a ⟨Formula.display (s.evaluate f), some f, style⟩ = s := by
    refine put_eq_self ?_
    rw [hcell, ← hdisplay, hvalue]
  unfold resubmit
  rw [hcell]
  dsimp only
  rw [hput]

/-- Nothing but the cell of the formula is seen to change by a commit. -/
lemma content_put_of_ne (c : Cell) {b : Address} (h : a ≠ b) :
    (s.put a c).snapshot.content b = s.snapshot.content b := by
  unfold Snapshot.content snapshot
  rw [cell?_put_of_ne c h]

/-- A cell with a numeric text holds its number, whatever formula gave the text. -/
lemma content_put_of_ofCellText? {t : String} {n : Number} (h : Number.ofCellText? t = some n)
    (formula : Option String) (style : Option Style) :
    (s.put a ⟨t, formula, style⟩).snapshot.content a = .number n := by
  have hcell : (s.put a ⟨t, formula, style⟩).snapshot a = some t := by
    unfold snapshot
    rw [cell?_put, if_pos rfl]
    rfl
  exact Formula.content_of_number hcell h

/-- After a formula was committed to a cell that it does not mention, and after any requests that do
not overwrite the cell, while the limits are the same and formulas see the same of every address
that the formula mentions, the cell shows what the formula evaluates to, and submitting it again
gives the outcome of the commit and changes nothing. -/
theorem resubmit_run_of_commit {s committed : Sheet} {a : Address} {f : String}
    {outcome : Option (Except Formula.Error Value)} {requests : List Step}
    (hf : isFormula f = true) (hcommit : s.commit a f = (committed, outcome))
    (hself : ¬Precedent committed.limits f a) (hspares : Spares a committed requests)
    (hlimits : (committed.run requests).limits = committed.limits)
    (hcontent : ∀ b, Precedent committed.limits f b →
      (committed.run requests).snapshot.content b = committed.snapshot.content b) :
    (committed.run requests).display a =
        Formula.display ((committed.run requests).evaluate f) ∧
      (committed.run requests).resubmit a = (committed.run requests, outcome) := by
  rw [commit_of_isFormula hf] at hcommit
  obtain ⟨rfl, rfl⟩ := Prod.mk.inj hcommit
  generalize hcell : (⟨Formula.display (s.evaluate f), some f, (s.cell? a).bind Cell.style⟩ : Cell)
    = c at *
  have hstored : (s.put a c).cell? a = some c := by
    rw [cell?_put, if_pos rfl]
  have hsame : (s.put a c).evaluate f = s.evaluate f := by
    refine evaluate_congr rfl fun b hb => content_put_of_ne c ?_
    rintro rfl
    exact hself hb
  have hrun : ((s.put a c).run requests).evaluate f = s.evaluate f :=
    (evaluate_congr hlimits hcontent).trans hsame
  obtain ⟨hdisplay, hformula⟩ := hspares.run
  have hshown : ((s.put a c).run requests).display a =
      Formula.display (((s.put a c).run requests).evaluate f) := by
    rw [hdisplay, hrun, display, hstored, ← hcell]
    rfl
  have hkept : ((s.put a c).run requests).formula? a = some f := by
    rw [hformula, formula?, hstored, ← hcell]
    rfl
  refine ⟨hshown, ?_⟩
  rw [resubmit_eq_self hkept hshown, hrun]

/-- The formula stays current while its number is written differently, styles change and a cell is
cut that it does not mention. -/
theorem resubmit_run_of_commit_rewritten :
    let a : Address := ⟨⟨1, by decide, by decide⟩, ⟨1, by decide, by decide⟩⟩
    let below : Address := ⟨⟨2, by decide, by decide⟩, ⟨1, by decide, by decide⟩⟩
    let committed := ((({} : Sheet).put below (.plain "1")).commit a "=A2&A2").1
    let s := committed.run [.commit "A2" " 1.0", .restyle "A1" { bold := some true }, .cut ["B2"]]
    s.display a = "11" ∧ s.resubmit a = (s, some (.ok (.text "11"))) := by
  intro a below committed s
  have hcommit : (({} : Sheet).put below (.plain "1")).commit a "=A2&A2" =
      (committed, some (.ok (.text "11"))) :=
    Prod.ext rfl (by decide +kernel)
  have hbody : Formula.Expr.ofText committed.limits (Formula.body "=A2&A2") =
      .ok (.binary .join (.cell below) (.cell below)) := by
    decide +kernel
  have hprecedent : ∀ b, Precedent committed.limits "=A2&A2" b → b = below := by
    rintro b ⟨e, he, hmentions⟩
    rw [hbody] at he
    cases he
    cases hmentions with
    | left inner =>
      cases inner
      rfl
    | right inner =>
      cases inner
      rfl
  have hself : ¬Precedent committed.limits "=A2&A2" a := by
    intro hprec
    exact absurd (hprecedent a hprec) (by decide)
  have hspares : Spares a committed
      [.commit "A2" " 1.0", .restyle "A1" { bold := some true }, .cut ["B2"]] := by
    refine ⟨?_, ?_, ?_, trivial⟩
    · rintro ⟨hwrites, -⟩
      have hspot : Address.ofText? "A2" ≠ some a := by decide +kernel
      exact hspot hwrites
    · rintro ⟨-, hstyle⟩
      exact hstyle _ _ rfl
    · rintro ⟨⟨addresses, hread, hmem⟩, -⟩
      have hspots : ["B2"].mapM place =
          .ok [⟨⟨2, by decide, by decide⟩, ⟨2, by decide, by decide⟩⟩] := by
        decide +kernel
      rw [hspots] at hread
      cases hread
      exact absurd hmem (by decide)
  have hcontent : s.snapshot.content below = committed.snapshot.content below := by
    decide +kernel
  obtain ⟨hdisplay, hresubmit⟩ := resubmit_run_of_commit (by decide) hcommit hself hspares rfl
    fun b hb => by
      rw [hprecedent b hb]
      exact hcontent
  refine ⟨?_, hresubmit⟩
  rw [hdisplay]
  decide +kernel

end Sheet

end Spreadsheet
