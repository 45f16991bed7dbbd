import Spreadsheet.Proofs.Formula.Recursion
import Spreadsheet.Proofs.Formula.Shifting

/-!
# Values are finite

No formula has an infinite value or one that is not-a-number, and neither has any part of it nor any
argument that a function is given (`Formula.isFinite_of_parts`).

Operators and calls check what they give.  Signs, literals and references check nothing, and the
number that they pass on was checked before: a literal when the text was split into lexemes
(`Formula.Expr.isFinite_of_ofText`), the text of a cell or of another operand when it was read
(`Number.isFinite_of_ofCellText?`).
-/

namespace Spreadsheet

/-- Text, or a number that is neither infinite nor not-a-number. -/
def Value.IsFinite : Value → Prop
  | .number n => n.isFinite = true
  | .text _ => True

/-! ## Numbers of cells -/

/-- No text of a cell names an infinite number: one that is out of reach is no number. -/
lemma Number.isFinite_of_ofCellText? {s : String} {n : Number} (h : Number.ofCellText? s = some n) :
    n.isFinite = true := by
  rw [ofCellText?, Option.filter_eq_some_iff] at h
  exact h.2

lemma Number.isFinite_zero : (Binary.zero : Number).isFinite = true := by
  decide +kernel

/-- A cell has a finite value, whatever its text is. -/
lemma Content.isFinite_value (cells : Snapshot) (a : Address) :
    (cells.content a).value.IsFinite := by
  rcases Formula.content_cases cells a with
    hblank | ⟨s, n, hcell, hnumber⟩ | ⟨s, hcell, hblank, hnumber⟩
  · rw [Formula.value_of_isBlank hblank]
    exact Number.isFinite_zero
  · rw [Formula.value_of_number hcell hnumber]
    exact Number.isFinite_of_ofCellText? hnumber
  · rw [Formula.value_of_text hcell hblank hnumber]
    trivial

namespace Formula

variable {limits : Limits} {cells : Snapshot} {v w : Value}

/-! ## Operators -/

/-- A value that passes the check for overflow is finite. -/
lemma isFinite_of_requireFinite (h : requireFinite v = .ok w) : w.IsFinite := by
  unfold requireFinite at h
  split at h
  case h_1 n =>
    split at h
    case isTrue hn =>
      cases h
      exact hn
    case isFalse => cases h
  case h_2 =>
    cases h
    trivial

/-- Whatever an operator gives was checked for overflow. -/
lemma isFinite_of_applyBinary {op : BinaryOp} {left right : Value}
    (h : applyBinary op left right = .ok v) : v.IsFinite := by
  obtain ⟨combined, -, hfinite⟩ := bind_eq_ok_iff.mp h
  exact isFinite_of_requireFinite hfinite

/-- A finite value is taken as a finite number, where a text is read like one of a cell. -/
lemma isFinite_of_toNumber {n : Number} (hv : v.IsFinite) (h : toNumber v = .ok n) :
    n.isFinite = true := by
  unfold toNumber at h
  split at h
  case h_1 =>
    cases h
    exact hv
  case h_2 =>
    split at h
    case h_1 hn =>
      cases h
      exact Number.isFinite_of_ofCellText? hn
    case h_2 => cases h

/-- A sign does not change whether a number is finite. -/
lemma isFinite_neg (n : Number) : (-n).isFinite = n.isFinite := by
  cases n <;> rfl

/-- A sign checks nothing, and needs a finite operand. -/
lemma isFinite_of_applyUnary {op : UnaryOp} (hv : v.IsFinite) (h : applyUnary op v = .ok w) :
    w.IsFinite := by
  obtain ⟨n, hn, hw⟩ := bind_eq_ok_iff.mp h
  have hfinite := isFinite_of_toNumber hv hn
  cases op with
  | plus =>
    cases hw
    exact hfinite
  | minus =>
    cases hw
    exact (isFinite_neg _).trans hfinite

/-- A waiting operator gives a finite value, whatever its left operand is. -/
lemma Pending.isFinite_of_apply {p : Pending} {left : Value} (h : p.apply left = .ok v) :
    v.IsFinite := by
  unfold Pending.apply at h
  split at h <;> obtain ⟨right, -, hright⟩ := bind_eq_ok_iff.mp h <;>
    exact isFinite_of_applyBinary hright

/-! ## Expressions -/

/-- The value of a tree with finite numbers is finite.  Only a sign relies on its operand for
that. -/
lemma isFinite_of_eval : ∀ {e : Expr} {v : Value}, (∀ n ∈ e.numbers, n.isFinite = true) →
    eval limits cells e = .ok v → v.IsFinite
  | .number n, _, hnumbers, h => by
    rw [eval_number] at h
    cases h
    exact hnumbers n (List.mem_singleton_self n)
  | .text _, _, _, h => by
    rw [eval_text] at h
    cases h
    trivial
  | .cell a, _, _, h => by
    rw [eval_cell] at h
    cases h
    exact Content.isFinite_value cells a
  | .range _, _, _, h => by
    rw [eval_range] at h
    cases h
  | .unary op e, _, hnumbers, h => by
    rw [eval_unary] at h
    obtain ⟨operand, hoperand, happly⟩ := bind_eq_ok_iff.mp h
    have hinner : ∀ n ∈ e.numbers, n.isFinite = true := hnumbers
    exact isFinite_of_applyUnary (isFinite_of_eval hinner hoperand) happly
  | .binary op l r, _, _, h => by
    rw [eval_binary, chain_singleton] at h
    obtain ⟨left, -, happly⟩ := bind_eq_ok_iff.mp h
    exact Pending.isFinite_of_apply happly
  | .call name args, _, _, h => by
    rw [eval_call] at h
    split at h
    case h_1 =>
      obtain ⟨found, -, happly⟩ := bind_eq_ok_iff.mp h
      exact isFinite_of_requireFinite happly
    case h_2 => cases h

/-- A number that a function is given is a literal or the value of an expression. -/
lemma isFinite_of_evalArgument {e : Expr} {n : Number}
    (hnumbers : ∀ n ∈ e.numbers, n.isFinite = true)
    (h : evalArgument limits cells e = .ok (.number n)) : n.isFinite = true := by
  unfold evalArgument argument at h
  split at h
  case h_1 =>
    cases h
    exact hnumbers n (List.mem_singleton_self n)
  case h_2 => cases h
  case h_3 => cases h
  case h_4 r =>
    unfold rangeArgument at h
    split at h <;> cases h
  case h_5 =>
    obtain ⟨v, hv, hn⟩ := map_eq_ok_iff.mp h
    cases v with
    | number m =>
      cases hn
      exact isFinite_of_eval hnumbers hv
    | text content => cases hn

/-- A call hands finite numbers to its function if the numbers of its arguments are finite. -/
lemma isFinite_of_evalArguments {args : List Expr} {found : List Argument} {n : Number}
    (hnumbers : ∀ n ∈ numbersAll args, n.isFinite = true)
    (h : evalArguments limits cells args = .ok found) (hn : .number n ∈ found) :
    n.isFinite = true := by
  induction args generalizing found with
  | nil =>
    rw [evalArguments] at h
    cases h
    cases hn
  | cons e es ih =>
    rw [evalArguments_cons] at h
    obtain ⟨first, hfirst, h⟩ := bind_eq_ok_iff.mp h
    obtain ⟨others, hothers, h⟩ := bind_eq_ok_iff.mp h
    rw [← Except.ok.inj h] at hn
    rcases List.mem_cons.mp hn with rfl | hn
    · exact isFinite_of_evalArgument (fun n hn => hnumbers n (List.mem_append_left _ hn)) hfirst
    · exact ih (fun n hn => hnumbers n (List.mem_append_right _ hn)) hothers hn

/-- A text that names too large a number is not read. -/
lemma Expr.isFinite_of_ofText {s : String} {e : Expr} (h : Expr.ofText limits s = .ok e) :
    ∀ n ∈ e.numbers, n.isFinite = true := by
  intro n hn
  obtain ⟨ls, hls, d, c, hder, -, -⟩ := Expr.ofText_eq_ok_iff_lexes.mp h
  rw [← hder.numbers_eq, List.mem_filterMap] at hn
  obtain ⟨t, ht, hnumber⟩ := hn
  obtain ⟨l, hl, rfl⟩ := List.mem_map.mp ht
  have htoken : l.token = .number n := by
    unfold Token.number? at hnumber
    split at hnumber
    case h_1 heq =>
      cases hnumber
      exact heq
    case h_2 => cases hnumber
  have hmem : ⟨.number n, l.chars⟩ ∈ ls := by
    rw [← htoken]
    exact hl
  exact (hls.names hmem).2

/-! ## Formulas -/

/-- A formula has no value that is infinite or not-a-number. -/
lemma isFinite_of_evaluate {formula : String} (h : evaluate limits cells formula = .ok v) :
    v.IsFinite := by
  unfold evaluate at h
  split at h
  case isTrue =>
    obtain ⟨e, he, heval⟩ := bind_eq_ok_iff.mp h
    exact isFinite_of_eval (Expr.isFinite_of_ofText he) heval
  case isFalse => cases h

/-- A number that is the value of a formula, the value of any part of a tree that was read from a
text, or an argument that a function in such a tree is given, is neither infinite nor
not-a-number. -/
theorem isFinite_of_parts :
    (∀ (limits : Limits) (cells : Snapshot) (formula : String) (n : Number),
      evaluate limits cells formula = .ok (.number n) → n.isFinite = true) ∧
    ∀ (limits : Limits) (s : String) (e : Expr), Expr.ofText limits s = .ok e →
      ∀ (limits' : Limits) (cells : Snapshot), ∀ x ∈ e.parts,
        (∀ n, eval limits' cells x = .ok (.number n) → n.isFinite = true) ∧
        ∀ name args found, x = .call name args → evalArguments limits' cells args = .ok found →
          ∀ n, .number n ∈ found → n.isFinite = true := by
  refine ⟨fun limits cells formula n h => isFinite_of_evaluate h, ?_⟩
  intro limits s e he limits' cells x hx
  have hnumbers : ∀ n ∈ x.numbers, n.isFinite = true :=
    fun n hn => Expr.isFinite_of_ofText he n (Expr.numbers_subset_of_mem_parts hx hn)
  refine ⟨fun n hn => isFinite_of_eval hnumbers hn, ?_⟩
  rintro name args found rfl hfound n hn
  exact isFinite_of_evalArguments hnumbers hfound hn

/-- The largest power of ten that a cell can hold, negated, passed on by `IF` and given to another
call, and the overflow of an operator and of a sum. -/
theorem isFinite_of_parts_overflow :
    let a1 : Address := ⟨⟨1, by decide, by decide⟩, ⟨1, by decide, by decide⟩⟩
    let limits : Limits := { nestedCalls := true }
    let cells : Snapshot := fun _ => some "1e308"
    let n : Number := .ofDecimal false ⟨1, 308⟩
    let inner : Expr := .call "IF" [.number .one, .unary .minus (.cell a1)]
    let outer : Expr := .call "MAX" [inner, .cell a1]
    Expr.ofText limits "MAX(IF(1,-A1),A1)" = .ok outer ∧ inner ∈ outer.parts ∧
      (evaluate limits cells "=MAX(IF(1,-A1),A1)" = .ok (.number n) ∧ n.isFinite = true) ∧
      (eval limits cells inner = .ok (.number (-n)) ∧ (-n).isFinite = true) ∧
      (evalArguments limits cells [inner, .cell a1] = .ok [.number (-n), .cell a1] ∧
        ∀ m, Argument.number m ∈ [.number (-n), .cell a1] → m.isFinite = true) ∧
      evaluate limits cells "=A1*10" = .error .notFinite ∧
      evaluate limits cells "=SUM(A1,A1)" = .error .notFinite := by
  intro a1 limits cells n inner outer
  have hread : Expr.ofText limits "MAX(IF(1,-A1),A1)" = .ok outer := by decide +kernel
  have hinner : inner ∈ outer.parts := by decide +kernel
  have hformula : evaluate limits cells "=MAX(IF(1,-A1),A1)" = .ok (.number n) := by decide +kernel
  have hpart : eval limits cells inner = .ok (.number (-n)) := by decide +kernel
  have hargs : evalArguments limits cells [inner, .cell a1] = .ok [.number (-n), .cell a1] := by
    decide +kernel
  obtain ⟨hformulas, hparts⟩ := isFinite_of_parts
  have hread' := hparts limits _ outer hread limits cells
  exact ⟨hread, hinner, ⟨hformula, hformulas _ _ _ _ hformula⟩,
    ⟨hpart, (hread' inner hinner).1 _ hpart⟩,
    ⟨hargs, (hread' outer List.mem_cons_self).2 _ _ _ rfl hargs⟩, by decide +kernel,
    by decide +kernel⟩

end Formula

end Spreadsheet
