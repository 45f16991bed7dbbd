import Spreadsheet.Proofs.Formula.Finiteness

/-!
# Comparisons are a trichotomy

Of two expressions that have values, one is less than, equal to or greater than the other one, and
only one of these holds.  The other three comparisons are the negations of these, and swapping the
operands swaps less and greater (`eval_compare_trichotomy`).

Two values always have an order unless one of them is not-a-number, and values of expressions never
are (`isFinite_of_eval`); nor are the numbers that texts stand for in a mixed comparison
(`Number.isFinite_of_ofCellText?`).  A number in front of a text and a text in front of a number are
compared by separate rules, which mirror each other (`order_swap`).
-/

namespace Spreadsheet

/-! ## Numbers -/

namespace Binary

variable {f : Format}

/-- Comparing two numbers the other way round swaps their order, and still gives none where one is
missing. -/
lemma compare?_swap (x y : Binary f) : y.compare? x = (x.compare? y).map Ordering.swap := by
  unfold compare?
  cases x.place? with
  | none => cases y.place? <;> rfl
  | some a =>
    cases y.place? with
    | none => rfl
    | some b => exact congrArg some Std.OrientedOrd.eq_swap

/-- A finite number has a place in the order of numbers. -/
lemma exists_place?_of_isFinite {x : Binary f} (h : x.isFinite = true) :
    ∃ a, x.place? = some a := by
  cases x with
  | finite negative rank => exact ⟨_, rfl⟩
  | infinite | nan => cases h

/-- Two finite numbers always have an order, since neither of them is a missing number. -/
lemma exists_compare?_of_isFinite {x y : Binary f} (hx : x.isFinite = true)
    (hy : y.isFinite = true) : ∃ o, x.compare? y = some o := by
  obtain ⟨a, ha⟩ := exists_place?_of_isFinite hx
  obtain ⟨b, hb⟩ := exists_place?_of_isFinite hy
  exact ⟨compare a b, by rw [compare?, ha, hb]⟩

end Binary

namespace Formula

/-! ## Values -/

section Values

variable {x y : Value}

/-- Comparing two values the other way round swaps their order, for numbers as for texts. -/
lemma order_swap (x y : Value) : order y x = (order x y).map Ordering.swap := by
  cases x with
  | number n =>
    cases y with
    | number m => exact n.compare?_swap m
    | text t =>
      simp only [order]
      cases Number.ofCellText? t with
      | some m => exact n.compare?_swap m
      | none => exact congrArg some Std.OrientedOrd.eq_swap
  | text s =>
    cases y with
    | number m =>
      simp only [order]
      cases Number.ofCellText? s with
      | some n => exact n.compare?_swap m
      | none => exact congrArg some Std.OrientedOrd.eq_swap
    | text t => exact congrArg some Std.OrientedOrd.eq_swap

/-- Finite values have an order, be they numbers or texts. -/
lemma exists_order_of_isFinite (hx : x.IsFinite) (hy : y.IsFinite) : ∃ o, order x y = some o := by
  cases x with
  | number n =>
    cases y with
    | number m => exact Binary.exists_compare?_of_isFinite hx hy
    | text t =>
      cases ht : Number.ofCellText? t with
      | some m =>
        have hm := Number.isFinite_of_ofCellText? ht
        simpa only [order, ht] using Binary.exists_compare?_of_isFinite hx hm
      | none => exact ⟨compare n.display t, by simp only [order, ht]⟩
  | text s =>
    cases y with
    | number m =>
      cases hs : Number.ofCellText? s with
      | some n =>
        have hn := Number.isFinite_of_ofCellText? hs
        simpa only [order, hs] using Binary.exists_compare?_of_isFinite hn hy
      | none => exact ⟨compare s m.display, by simp only [order, hs]⟩
    | text t => exact ⟨compare s t, rfl⟩

end Values

/-! ## Comparisons -/

/-- One or zero, which say that a comparison holds or fails. -/
def truth (b : Bool) : Value :=
  .number (if b then .one else .zero)

/-- A value says only one thing about a comparison: one and zero are different numbers. -/
lemma ok_truth_inj {a b : Bool} :
    (.ok (truth a) : Except Error Value) = .ok (truth b) ↔ a = b := by
  have hne : truth true ≠ truth false := by decide +kernel
  rw [Except.ok.injEq]
  refine ⟨fun h => ?_, congrArg truth⟩
  cases a <;> cases b
  · rfl
  · exact absurd h.symm hne
  · exact absurd h hne
  · rfl

/-- A comparison of two values never fails, and gives one or zero. -/
lemma applyBinary_compare (test : Comparison) (x y : Value) :
    applyBinary (.compare test) x y = .ok (truth (test.holds (order x y))) := by
  have hone : (Binary.one : Number).isFinite = true := by decide +kernel
  have htruth : ∀ b, requireFinite (truth b) = .ok (truth b)
    | true => by rw [truth, requireFinite, if_pos rfl, if_pos hone]
    | false => by rw [truth, requireFinite, if_neg Bool.false_ne_true, if_pos Number.isFinite_zero]
  exact htruth _

variable {limits : Limits} {cells : Snapshot} {l r : Expr} {x y : Value}

/-- A comparison has a value as soon as its operands have. -/
lemma eval_compare (test : Comparison) (hx : eval limits cells l = .ok x)
    (hy : eval limits cells r = .ok y) :
    eval limits cells (.binary (.compare test) l r) = .ok (truth (test.holds (order x y))) := by
  rw [eval_binary_of_ne_join (by simp), hx, hy]
  exact applyBinary_compare test x y

/-- Of two expressions that have values, exactly one comparison among less, equal and greater is one
and the others are zero.  Each other comparison is one where its opposite is zero, and swapping the
operands swaps less and greater and keeps equal.  The literals have to be finite, as those of any
text that is read are. -/
theorem eval_compare_trichotomy (hl : ∀ n ∈ l.numbers, n.isFinite = true)
    (hr : ∀ n ∈ r.numbers, n.isFinite = true) (hx : eval limits cells l = .ok x)
    (hy : eval limits cells r = .ok y) :
    let outcome (test : Comparison) (l r : Expr) := eval limits cells (.binary (.compare test) l r)
    let yes : Except Error Value := .ok (.number .one)
    let no : Except Error Value := .ok (.number .zero)
    yes ≠ no ∧ (∀ test, outcome test l r = yes ∨ outcome test l r = no) ∧
      (outcome .less l r = yes ∧ outcome .equal l r = no ∧ outcome .greater l r = no ∨
        outcome .less l r = no ∧ outcome .equal l r = yes ∧ outcome .greater l r = no ∨
        outcome .less l r = no ∧ outcome .equal l r = no ∧ outcome .greater l r = yes) ∧
      (outcome .lessEqual l r = yes ↔ outcome .greater l r = no) ∧
      (outcome .greaterEqual l r = yes ↔ outcome .less l r = no) ∧
      (outcome .notEqual l r = yes ↔ outcome .equal l r = no) ∧
      outcome .less l r = outcome .greater r l ∧ outcome .equal l r = outcome .equal r l := by
  intro outcome yes no
  obtain ⟨o, ho⟩ := exists_order_of_isFinite (isFinite_of_eval hl hx) (isFinite_of_eval hr hy)
  have hswap : order y x = some o.swap := by rw [order_swap, ho, Option.map_some]
  have hforth : ∀ test, outcome test l r = .ok (truth (test.holds (some o))) := by
    intro test
    rw [← ho]
    exact eval_compare test hx hy
  have hback : ∀ test, outcome test r l = .ok (truth (test.holds (some o.swap))) := by
    intro test
    rw [← hswap]
    exact eval_compare test hy hx
  have hyes : yes = .ok (truth true) := by rw [truth, if_pos rfl]
  have hno : no = .ok (truth false) := by rw [truth, if_neg Bool.false_ne_true]
  -- What is left is said of the three orders.
  simp only [hforth, hback, hyes, hno, ne_eq, ok_truth_inj]
  refine ⟨by decide, fun test => Bool.eq_false_or_eq_true _, ?_⟩
  cases o <;> decide

/-- The number of a cell exceeds a numeric text, but comes before another text as a text does. -/
theorem eval_compare_trichotomy_mixed :
    let a1 : Address := ⟨⟨1, by decide, by decide⟩, ⟨1, by decide, by decide⟩⟩
    let cells : Snapshot := fun _ => some "10"
    let outcome (test : Comparison) (l r : Expr) := eval {} cells (.binary (.compare test) l r)
    Expr.ofText {} "A1" = .ok (.cell a1) ∧ Expr.ofText {} "\"9\"" = .ok (.text "9") ∧
      Expr.ofText {} "\"9a\"" = .ok (.text "9a") ∧
      outcome .greater (.cell a1) (.text "9") = .ok (.number .one) ∧
      outcome .lessEqual (.cell a1) (.text "9") ≠ .ok (.number .one) ∧
      outcome .less (.cell a1) (.text "9a") = .ok (.number .one) ∧
      outcome .greater (.text "9a") (.cell a1) = .ok (.number .one) := by
  intro a1 cells outcome
  have hcell : Expr.ofText {} "A1" = .ok (.cell a1) := by decide +kernel
  have hnumeric : Expr.ofText {} "\"9\"" = .ok (.text "9") := by decide +kernel
  have hword : Expr.ofText {} "\"9a\"" = .ok (.text "9a") := by decide +kernel
  have hgreater : outcome .greater (.cell a1) (.text "9") = .ok (.number .one) := by decide +kernel
  have hless : outcome .less (.cell a1) (.text "9a") = .ok (.number .one) := by decide +kernel
  have hten : eval {} cells (.cell a1) = .ok (cells.content a1).value := eval_cell a1
  obtain ⟨hne, -, -, hopposite, -⟩ := eval_compare_trichotomy (Expr.isFinite_of_ofText hcell)
    (Expr.isFinite_of_ofText hnumeric) hten (eval_text "9")
  obtain ⟨-, -, -, -, -, -, hswap, -⟩ := eval_compare_trichotomy (Expr.isFinite_of_ofText hcell)
    (Expr.isFinite_of_ofText hword) hten (eval_text "9a")
  refine ⟨hcell, hnumeric, hword, hgreater, ?_, hless, hswap.symm.trans hless⟩
  intro hle
  exact hne (hgreater.symm.trans (hopposite.mp hle))

end Formula

end Spreadsheet
