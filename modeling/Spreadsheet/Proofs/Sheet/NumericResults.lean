import Spreadsheet.Proofs.Binary.ReadBack
import Spreadsheet.Proofs.Formula.Finiteness
import Spreadsheet.Proofs.Sheet.StoredResults

/-!
# Numeric results survive storing

A sheet keeps the outcome of a formula as the text that shows it, and formulas read that text again.
The main result, `Sheet.content_commit_of_number`, says that nothing is lost on the way: the text of
every finite number is read as the number itself, but for the sign of a zero, and so after a formula
with a number for its outcome was committed, every formula is evaluated as on the sheet before with
that number in the cell.

The text reads back by `Binary.ofCellText?_display`, and the outcome is finite by
`Formula.isFinite_of_evaluate`.
-/

namespace Spreadsheet

namespace Sheet

variable {s t : Sheet} {a : Address} {n : Number}

/-- A cell that shows a finite number holds the number. -/
lemma content_put_of_display (hn : n.isFinite = true) (formula : Option String)
    (style : Option Style) :
    (s.put a ⟨n.display, formula, style⟩).snapshot.content a = .number n.unsignedZero :=
  content_put_of_ofCellText? (Binary.ofCellText?_display hn) formula style

/-- What a commit with a number for its outcome stores, and that the number is finite. -/
lemma exists_put_of_commit {f : String} (h : s.commit a f = (t, some (.ok (.number n)))) :
    n.isFinite = true ∧ ∃ style, t = s.put a ⟨n.display, some f, style⟩ := by
  by_cases hf : isFormula f = true
  · rw [commit_of_isFormula hf] at h
    obtain ⟨hput, houtcome⟩ := Prod.mk.inj h
    have heval : s.evaluate f = .ok (.number n) := Option.some.inj houtcome
    rw [heval] at hput
    exact ⟨Formula.isFinite_of_evaluate heval, _, hput.symm⟩
  · unfold commit at h
    dsimp only at h
    rw [if_neg hf] at h
    cases h

/-- The text that shows a finite number is read as the number, where either zero is read as positive
zero.  After the commit of a formula with a number for its outcome, this is what formulas see in the
cell, and every formula is evaluated as with that number in the cell and the rest of the sheet as
before. -/
theorem content_commit_of_number :
    (∀ n : Number, n.isFinite = true → Number.ofCellText? n.display = some n.unsignedZero) ∧
    ∀ (s t : Sheet) (a : Address) (f : String) (n : Number),
      s.commit a f = (t, some (.ok (.number n))) →
        t.snapshot.content a = .number n.unsignedZero ∧
        ∀ (cells : Snapshot) (g : String), cells.content a = .number n.unsignedZero →
          (∀ b, a ≠ b → cells.content b = s.snapshot.content b) →
            t.evaluate g = Formula.evaluate s.limits cells g := by
  refine ⟨fun n => Binary.ofCellText?_display, ?_⟩
  intro s t a f n hcommit
  obtain ⟨hn, style, rfl⟩ := exists_put_of_commit hcommit
  have hcontent := content_put_of_display (s := s) (a := a) hn (some f) style
  refine ⟨hcontent, ?_⟩
  intro cells g ha hothers
  apply Formula.evaluate_congr
  intro e _ b _
  by_cases hab : a = b
  · subst hab
    exact hcontent.trans ha.symm
  · exact (content_put_of_ne _ hab).trans (hothers b hab).symm

/-- A sum that no short decimal names is read again to its last bit, and a negative zero without its
sign. -/
theorem content_commit_of_number_sum :
    let a : Address := ⟨⟨1, by decide, by decide⟩, ⟨1, by decide, by decide⟩⟩
    let n : Number := .ofDecimal false ⟨30000000000000004, -17⟩
    let t := (({} : Sheet).commit a "=0.1+0.2").1
    let zeroed := (({} : Sheet).commit a "=-0").1
    let cells : Snapshot := fun b => if a = b then some "30000000000000004e-17" else none
    Number.ofCellText? n.display = some n ∧ t.snapshot.content a = .number n ∧
      t.evaluate "=A1*10" = Formula.evaluate {} cells "=A1*10" ∧
        zeroed.snapshot.content a = .number .zero := by
  intro a n t zeroed cells
  have hunsigned : n.unsignedZero = n := by decide +kernel
  have hsum : ({} : Sheet).commit a "=0.1+0.2" = (t, some (.ok (.number n))) :=
    Prod.ext rfl (by decide +kernel)
  have hzero : ({} : Sheet).commit a "=-0" = (zeroed, some (.ok (.number (-.zero)))) :=
    Prod.ext rfl (by decide +kernel)
  obtain ⟨htext, hcommit⟩ := content_commit_of_number
  obtain ⟨hcontent, hformulas⟩ := hcommit _ _ _ _ _ hsum
  have hread := htext n (by decide +kernel)
  rw [hunsigned] at hread hcontent hformulas
  refine ⟨hread, hcontent, hformulas cells _ (by decide +kernel) fun b hb => ?_, ?_⟩
  · have hcells : cells b = none := if_neg hb
    unfold Snapshot.content
    rw [hcells]
    rfl
  · rw [(hcommit _ _ _ _ _ hzero).1]
    decide +kernel

end Sheet

end Spreadsheet
