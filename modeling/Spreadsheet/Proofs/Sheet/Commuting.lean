import Spreadsheet.Proofs.Sheet.StoredResults

/-!
# Independent submissions commute

What is submitted at an address is an input or, once more, the formula that is there.  The main
result, `Sheet.submit_comm`, says that two submissions at different addresses can be made in either
order, with the same sheet in the end and the same two outcomes, when neither evaluates a formula
that mentions the address of the other.

A submission writes at its own address only (`Sheet.cell?_submit_of_ne`), and what it writes there
and gives is told by the cell that is there and by what its formula evaluates to
(`Sheet.submit_congr`).  So each of the two finds the sheet as if the other one had not been made.
-/

namespace Spreadsheet

/-- What is submitted at an address. -/
inductive Submission where
  | commit (input : String)
  | resubmit

namespace Sheet

/-- Makes a submission at an address. -/
def submit (s : Sheet) (a : Address) : Submission → Sheet × Option (Except Formula.Error Value)
  | .commit input => s.commit a input
  | .resubmit => s.resubmit a

/-- The formula that a submission evaluates, if there is one. -/
def submitted? (s : Sheet) (a : Address) : Submission → Option String
  | .commit input => if isFormula input then some input else none
  | .resubmit => s.formula? a

variable {s t : Sheet} {a b : Address} {x y : Submission}

/-! ## What a submission writes -/

/-- A submission stores a cell at its address, or nothing. -/
lemma submit_cases (s : Sheet) (a : Address) (x : Submission) :
    (s.submit a x).1 = s ∨ ∃ c, (s.submit a x).1 = s.put a c := by
  cases x with
  | commit input =>
    obtain ⟨value, hput⟩ := s.exists_put_commit a input
    exact .inr ⟨_, hput⟩
  | resubmit =>
    rcases s.resubmit_cases a with hsame | ⟨c, value, -, -, hput⟩
    · exact .inl hsame
    · exact .inr ⟨_, hput⟩

/-- A submission changes no cell at another address. -/
lemma cell?_submit_of_ne (h : b ≠ a) : (s.submit b x).1.cell? a = s.cell? a := by
  rcases s.submit_cases b x with hsame | ⟨c, hput⟩
  · rw [hsame]
  · rw [hput, cell?_put_of_ne c h]

/-- A submission leaves the clipboard as it was. -/
lemma clipboard_submit : (s.submit a x).1.clipboard = s.clipboard := by
  rcases s.submit_cases a x with hsame | ⟨c, hput⟩
  · rw [hsame]
  · rw [hput, put]

/-- A submission leaves the limits as they were. -/
lemma limits_submit : (s.submit a x).1.limits = s.limits := by
  rcases s.submit_cases a x with hsame | ⟨c, hput⟩
  · rw [hsame]
  · rw [hput, put]

/-! ## What a submission reads -/

/-- A submission looks at the cell that is there and evaluates its formula. -/
lemma submit_congr (hcell : t.cell? a = s.cell? a)
    (heval : ∀ f, s.submitted? a x = some f → t.evaluate f = s.evaluate f) :
    (t.submit a x).1.cell? a = (s.submit a x).1.cell? a ∧
      (t.submit a x).2 = (s.submit a x).2 := by
  cases x with
  | commit input =>
    unfold submit commit
    dsimp only
    rw [hcell]
    split
    case isTrue hf =>
      rw [heval input (if_pos hf)]
      exact ⟨by rw [cell?_put, cell?_put, if_pos rfl, if_pos rfl], rfl⟩
    case isFalse => exact ⟨by rw [cell?_put, cell?_put, if_pos rfl, if_pos rfl], rfl⟩
  | resubmit =>
    have hformula : t.formula? a = s.formula? a := by
      rw [formula?, formula?, hcell]
    unfold submit
    dsimp only
    rw [resubmit_eq, resubmit_eq, hformula, hcell]
    cases hf : s.formula? a with
    | none => exact ⟨hcell, rfl⟩
    | some f =>
      dsimp only
      rw [heval f hf]
      exact ⟨by rw [cell?_put, cell?_put, if_pos rfl, if_pos rfl], rfl⟩

/-- A formula does not notice a submission at an address that it does not mention. -/
lemma evaluate_submit {f : String} (h : ¬Precedent s.limits f b) :
    (s.submit b y).1.evaluate f = s.evaluate f := by
  apply evaluate_congr limits_submit
  intro c hc
  have hbc : b ≠ c := by
    rintro rfl
    exact h hc
  unfold Snapshot.content snapshot
  rw [cell?_submit_of_ne hbc]

/-- A submission is the same after one at another address that its formula does not mention. -/
lemma submit_submit (hab : a ≠ b)
    (hx : ∀ f, s.submitted? a x = some f → ¬Precedent s.limits f b) :
    ((s.submit b y).1.submit a x).1.cell? a = (s.submit a x).1.cell? a ∧
      ((s.submit b y).1.submit a x).2 = (s.submit a x).2 :=
  submit_congr (cell?_submit_of_ne hab.symm) fun f hf => evaluate_submit (hx f hf)

/-- Two submissions at different addresses, neither with a formula that mentions the address of the
other, give the same sheet and the same outcomes in either order. -/
theorem submit_comm {s : Sheet} {a b : Address} {x y : Submission} (hab : a ≠ b)
    (hx : ∀ f, s.submitted? a x = some f → ¬Precedent s.limits f b)
    (hy : ∀ f, s.submitted? b y = some f → ¬Precedent s.limits f a) :
    ((s.submit a x).1.submit b y).1 = ((s.submit b y).1.submit a x).1 ∧
      (s.submit a x).2 = ((s.submit b y).1.submit a x).2 ∧
        ((s.submit a x).1.submit b y).2 = (s.submit b y).2 := by
  obtain ⟨hcellx, hresultx⟩ := submit_submit (y := y) hab hx
  obtain ⟨hcelly, hresulty⟩ := submit_submit (y := x) hab.symm hy
  refine ⟨eq_of_cell?_eq ?_ ?_ ?_, hresultx.symm, hresulty⟩
  · intro c
    by_cases hca : a = c
    · subst hca
      rw [cell?_submit_of_ne hab.symm, hcellx]
    · by_cases hcb : b = c
      · subst hcb
        rw [cell?_submit_of_ne hab, hcelly]
      · rw [cell?_submit_of_ne hcb, cell?_submit_of_ne hca, cell?_submit_of_ne hca,
          cell?_submit_of_ne hcb]
  · simp only [clipboard_submit]
  · simp only [limits_submit]

/-- A formula that adds its own cell to another one, and a formula that is submitted again. -/
theorem submit_comm_own_cell :
    let a : Address := ⟨⟨1, by decide, by decide⟩, ⟨1, by decide, by decide⟩⟩
    let b : Address := ⟨⟨1, by decide, by decide⟩, ⟨2, by decide, by decide⟩⟩
    let below : Address := ⟨⟨2, by decide, by decide⟩, ⟨1, by decide, by decide⟩⟩
    let s := ((({} : Sheet).put a (.plain "3")).put below (.plain "4")).put b
      ⟨"", some "=-A2", none⟩
    ((s.submit a (.commit "=A1+A2")).1.submit b .resubmit).1 =
        ((s.submit b .resubmit).1.submit a (.commit "=A1+A2")).1 ∧
      ((s.submit b .resubmit).1.submit a (.commit "=A1+A2")).2 = (s.submit a (.commit "=A1+A2")).2 ∧
        (s.submit a (.commit "=A1+A2")).1.display a = "7" := by
  intro a b below s
  have hsum : Formula.Expr.ofText s.limits (Formula.body "=A1+A2") =
      .ok (.binary .add (.cell a) (.cell below)) := by
    decide +kernel
  have hminus : Formula.Expr.ofText s.limits (Formula.body "=-A2") =
      .ok (.unary .minus (.cell below)) := by
    decide +kernel
  have hcell : ∀ c d : Address, (Formula.Expr.cell c).Mentions d → c = d := by
    rintro c d ⟨⟩
    rfl
  have hx : ∀ f, s.submitted? a (.commit "=A1+A2") = some f → ¬Precedent s.limits f b := by
    rintro f hf ⟨e, he, hmentions⟩
    obtain rfl : "=A1+A2" = f := Option.some.inj hf
    rw [hsum] at he
    cases he
    cases hmentions with
    | left inner => exact absurd (hcell a b inner) (by decide)
    | right inner => exact absurd (hcell below b inner) (by decide)
  have hy : ∀ f, s.submitted? b .resubmit = some f → ¬Precedent s.limits f a := by
    rintro f hf ⟨e, he, hmentions⟩
    have hstored : s.submitted? b .resubmit = some "=-A2" := by decide +kernel
    obtain rfl : "=-A2" = f := Option.some.inj (hstored.symm.trans hf)
    rw [hminus] at he
    cases he
    cases hmentions with
    | operand inner => exact absurd (hcell below a inner) (by decide)
  obtain ⟨hsheet, hresult, -⟩ := submit_comm (by decide) hx hy
  exact ⟨hsheet, hresult.symm, by decide +kernel⟩

end Sheet

end Spreadsheet
