import Mathlib.Data.List.Chain
import Mathlib.Logic.Function.Iterate
import Spreadsheet.Proofs.Formula.Acceptance
import Spreadsheet.Proofs.Formula.Recursion

/-!
# How deep evaluation nests

An evaluation starts nested ones: a sign evaluates its operand, a call its arguments, and a chain of
operators, which the evaluator walks in a loop, its first operand and its right operands
(`Expr.nested`).  A chain may be as long as the formula, but the main result,
`Expr.nesting_le_of_ofText`, bounds the nesting of evaluations by the depth that the reader allows.

The reader grants the depth to parentheses, signs and calls.  Between two of them a right operand
binds tighter than its operator, so a path into the tree goes through at most one chain of each of
the four levels before it comes to the operand in which the next one opens
(`Derives.nestsWithin`).  What the bound means for the evaluator is said with `activate`, a single
evaluation that leaves the nested ones to another function.
-/

namespace Spreadsheet

namespace Formula

/-! ## Nested evaluations -/

/-- The first operand of a chain of operators and the right operands, from left to right. -/
def Expr.operands : Expr → List Expr
  | .binary _ l r => l.operands ++ [r]
  | e => [e]

/-- The expressions one evaluation below that of a tree: the operand of a sign, the operands of a
chain and the arguments of a call. -/
def Expr.nested : Expr → List Expr
  | .number _ => []
  | .text _ => []
  | .cell _ => []
  | .range _ => []
  | .unary _ e => [e]
  | .binary _ l r => l.operands ++ [r]
  | .call _ args => args

/-- Evaluations nest at most `n` deep, the evaluation of the tree itself included. -/
def Expr.NestsWithin : Nat → Expr → Prop
  | 0, _ => False
  | n + 1, e => ∀ x ∈ e.nested, x.NestsWithin n

/-- Evaluations that nest within a bound nest within every larger one. -/
lemma Expr.NestsWithin.mono {m n : Nat} {e : Expr} (h : e.NestsWithin m) (hmn : m ≤ n) :
    e.NestsWithin n := by
  induction m generalizing n e with
  | zero => exact h.elim
  | succ m ih =>
    obtain ⟨n, rfl⟩ := Nat.exists_eq_succ_of_ne_zero (Nat.ne_zero_of_lt hmn)
    intro x hx
    exact ih (h x hx) (Nat.le_of_succ_le_succ hmn)

/-- An evaluation that starts no other one is the only one. -/
lemma Expr.nestsWithin_leaf {n : Nat} {e : Expr} (he : e.nested = []) (hn : 0 < n) :
    e.NestsWithin n := by
  have hone : e.NestsWithin 1 := by
    intro x hx
    rw [he] at hx
    cases hx
  exact hone.mono hn

/-- A path down the nested evaluations of a tree is no longer than they nest. -/
lemma Expr.NestsWithin.length_le {n : Nat} {e : Expr} {es : List Expr} (h : e.NestsWithin n)
    (hes : (e :: es).IsChain fun x y => y ∈ x.nested) : (e :: es).length ≤ n := by
  induction es generalizing n e with
  | nil =>
    cases n with
    | zero => exact h.elim
    | succ n => exact Nat.succ_le_succ (Nat.zero_le n)
  | cons x es ih =>
    cases n with
    | zero => exact h.elim
    | succ n =>
      obtain ⟨hx, hes⟩ := List.isChain_cons_cons.mp hes
      exact Nat.succ_le_succ (ih (h x hx) hes)

/-! ## Nesting in phrases -/

/-- A phrase that is no chain is its own first operand. -/
lemma Expr.nestsWithin_of_operands {m n : Nat} {e : Expr} (he : e.operands = [e])
    (h : e.NestsWithin m) (hn : m ≤ n) : ∀ x ∈ e.operands, x.NestsWithin n := by
  intro x hx
  rw [he, List.mem_singleton] at hx
  rw [hx]
  exact h.mono hn

mutual

/-- Evaluations nest at most five deep for each construct that counts towards the depth and five
deep below the last one, less one for each level that the phrase binds tighter than a comparison. -/
lemma Derives.nestsWithin {level d c : Nat} {ts : List Token} {e : Expr} :
    Derives level ts e d c → e.NestsWithin (5 * d + 5 - min level 4) ∧
      ∀ x ∈ e.operands, x.NestsWithin (5 * d + 4 - min level 3)
  | .number _ | .text _ | .cell _ | .range _ _ | .emptyCall _ => by
    refine ⟨Expr.nestsWithin_leaf rfl (by omega), Expr.nestsWithin_of_operands rfl ?_ le_rfl⟩
    exact Expr.nestsWithin_leaf rfl (by omega)
  | .paren inner => by
    obtain ⟨he, hoperands⟩ := inner.nestsWithin
    exact ⟨he.mono (by omega), fun x hx => (hoperands x hx).mono (by omega)⟩
  | @Derives.call name _ es d _ arguments => by
    have hcall : (Expr.call name es).NestsWithin (5 * d + 6) := arguments.nestsWithin
    exact ⟨hcall.mono (by omega), Expr.nestsWithin_of_operands rfl hcall (by omega)⟩
  | @Derives.signed _ sign _ _ e d _ operand => by
    have he := operand.nestsWithin.1
    have hsigned : (Expr.unary sign e).NestsWithin (5 * d + 2) := by
      intro x hx
      rw [List.mem_singleton.mp hx]
      exact he
    exact ⟨hsigned.mono (by omega), Expr.nestsWithin_of_operands rfl hsigned (by omega)⟩
  | @Derives.binary op _ _ l r d d' _ _ first second => by
    have hlevel := op.level_lt_four
    obtain ⟨-, hl⟩ := first.nestsWithin
    obtain ⟨hr, -⟩ := second.nestsWithin
    have hoperands : ∀ x ∈ (Expr.binary op l r).operands,
        x.NestsWithin (5 * max d d' + 4 - op.level) := by
      intro x hx
      rcases List.mem_append.mp hx with hx | hx
      · exact (hl x hx).mono (by omega)
      · rw [List.mem_singleton.mp hx]
        exact hr.mono (by omega)
    have hchain : (Expr.binary op l r).NestsWithin (5 * max d d' + 4 - op.level + 1) := hoperands
    exact ⟨hchain.mono (by omega), fun x hx => (hoperands x hx).mono (by omega)⟩
  | .looser phrase => by
    obtain ⟨he, hoperands⟩ := phrase.nestsWithin
    exact ⟨he.mono (by omega), fun x hx => (hoperands x hx).mono (by omega)⟩

/-- Evaluations of arguments nest at most five deep for each construct that counts towards the
depth, and five deep below the last one. -/
lemma DerivesArguments.nestsWithin {d c : Nat} {ts : List Token} {es : List Expr} :
    DerivesArguments ts es d c → ∀ x ∈ es, x.NestsWithin (5 * d + 5)
  | .one argument => by
    intro x hx
    rw [List.mem_singleton.mp hx]
    exact argument.nestsWithin.1
  | .more others argument => by
    intro x hx
    rcases List.mem_append.mp hx with hx | hx
    · exact (others.nestsWithin x hx).mono (by omega)
    · rw [List.mem_singleton.mp hx]
      exact argument.nestsWithin.1.mono (by omega)

end

/-! ## Single evaluations -/

variable (limits : Limits) (cells : Snapshot)

/-- The walk down the left spine of a chain, with `inner` in place of nested evaluations. -/
def walk (inner : Expr → Except Error Value) (e : Expr) (pending : List Pending) :
    Except Error Value :=
  match e with
  | .binary op l r => walk inner l (⟨op, isBlankCell cells r, fun _ => inner r⟩ :: pending)
  | e => chain ⟨isBlankCell cells e, fun _ => inner e⟩ pending

/-- A single evaluation, with `inner` in place of nested evaluations. -/
def activate (inner : Expr → Except Error Value) (e : Expr) : Except Error Value :=
  match e with
  | .number value => .ok (.number value)
  | .text content => .ok (.text content)
  | .cell address => .ok (cells.content address).value
  | .range range => .error (.rangeAsValue range)
  | .unary op operand => do applyUnary op (← inner operand)
  | .binary op left right =>
    walk cells inner left [⟨op, isBlankCell cells right, fun _ => inner right⟩]
  | .call name args =>
    match Function.ofName? name with
    | some f => do applyFunction cells f (← args.mapM (argument limits inner))
    | none => .error (.unknownFunction name)

variable {limits cells} {f g : Expr → Except Error Value}

/-- The walk of a single evaluation, with the evaluator for the nested ones, is the loop of the
evaluator. -/
lemma walk_eval : ∀ (e : Expr) (pending : List Pending),
    walk cells (eval limits cells) e pending = evalChain limits cells e pending
  | .binary op l r, pending => by
    rw [walk, walk_eval l]
    simp only [evalChain, eval]
  | .number _, _ | .text _, _ | .cell _, _ | .range _, _ | .unary _ _, _ | .call _ _, _ =>
    (evalChain_eq_chain _ _).symm

/-- The evaluator is a single evaluation with itself for the nested ones. -/
lemma activate_eval (e : Expr) :
    activate limits cells (eval limits cells) e = eval limits cells e := by
  cases e with
  | number n => rw [eval_number, activate]
  | text content => rw [eval_text, activate]
  | cell a => rw [eval_cell, activate]
  | range r => rw [eval_range, activate]
  | unary op e => rw [eval_unary, activate]
  | binary op l r =>
    simp only [activate, walk_eval, eval, evalChain]
  | call name args =>
    rw [eval_call, activate, evalArguments_eq_mapM]
    rfl

/-- A walk asks for the operands of the chain and for nothing else. -/
lemma walk_congr : ∀ (e : Expr) (pending : List Pending), (∀ x ∈ e.operands, f x = g x) →
    walk cells f e pending = walk cells g e pending
  | .binary op l r, pending, h => by
    have hr : f r = g r := h r (by simp [Expr.operands])
    have hl : ∀ x ∈ l.operands, f x = g x := fun x hx => h x (List.mem_append_left _ hx)
    rw [walk, walk, hr, walk_congr l _ hl]
  | .number _, _, h | .text _, _, h | .cell _, _, h | .range _, _, h | .unary _ _, _, h
  | .call _ _, _, h => by
    simp only [walk, h _ (List.mem_singleton_self _)]

/-- A call asks for its arguments and for nothing else. -/
lemma mapM_argument_congr {args : List Expr} (h : ∀ x ∈ args, f x = g x) :
    args.mapM (argument limits f) = args.mapM (argument limits g) := by
  induction args with
  | nil => rfl
  | cons x args ih =>
    have hx : argument limits f x = argument limits g x := argument_congr (h x List.mem_cons_self)
    rw [List.mapM_cons, List.mapM_cons, hx, ih fun y hy => h y (List.mem_cons_of_mem x hy)]

/-- A single evaluation asks for nothing but the nested ones. -/
lemma activate_congr {e : Expr} (h : ∀ x ∈ e.nested, f x = g x) :
    activate limits cells f e = activate limits cells g e := by
  cases e with
  | number | text | cell | range => rfl
  | unary op e => rw [activate, activate, h e (List.mem_singleton_self e)]
  | binary op l r =>
    have hr : f r = g r := h r (by simp [Expr.nested])
    have hl : ∀ x ∈ l.operands, f x = g x := fun x hx => h x (List.mem_append_left _ hx)
    rw [activate, activate, hr, walk_congr l _ hl]
  | call name args =>
    have hargs : ∀ x ∈ args, f x = g x := h
    rw [activate, activate, mapM_argument_congr hargs]

/-- Where evaluations nest within `n`, nothing is asked `n` evaluations further down. -/
lemma Expr.NestsWithin.iterate_activate {n : Nat} {e : Expr} (h : e.NestsWithin n)
    (beyond : Expr → Except Error Value) :
    (activate limits cells)^[n] beyond e = eval limits cells e := by
  induction n generalizing e with
  | zero => exact h.elim
  | succ n ih =>
    rw [Function.iterate_succ_apply', ← activate_eval]
    exact activate_congr fun x hx => ih (h x hx)

/-! ## Formulas -/

/-- Evaluating a tree that was read from a text nests at most five evaluations for each unit of the
depth that the reader allows, and five more, however long the chains of operators are: no path down
the nested evaluations is longer, and so the outcome does not depend on what would be evaluated that
deep. -/
theorem Expr.nesting_le_of_ofText {limits : Limits} {s : String} {e : Expr}
    (h : Expr.ofText limits s = .ok e) :
    (∀ es : List Expr, ((e :: es).IsChain fun x y => y ∈ x.nested) →
      (e :: es).length ≤ 5 * (limits.maxDepth + 1)) ∧
    ∀ (limits' : Limits) (cells : Snapshot) (beyond : Expr → Except Error Value),
      (activate limits' cells)^[5 * (limits.maxDepth + 1)] beyond e = eval limits' cells e := by
  obtain ⟨ts, found, -, -, d, c, hder, hd, -⟩ := Expr.ofText_eq_ok_iff.mp h
  have hnests : e.NestsWithin (5 * (limits.maxDepth + 1)) := hder.nestsWithin.1.mono (by omega)
  exact ⟨fun es => hnests.length_le, fun limits' cells => hnests.iterate_activate⟩

/-- Two chains through all levels, one inside a call behind the other one: the bound is reached, and
one evaluation less does not suffice. -/
theorem Expr.nesting_le_of_ofText_chains :
    let limits : Limits := { maxDepth := 1 }
    let a1 : Address := ⟨⟨1, by decide, by decide⟩, ⟨1, by decide, by decide⟩⟩
    let product (e : Expr) : Expr := .binary .multiply (.cell a1) e
    let sum (e : Expr) : Expr := .binary .add (.cell a1) (product e)
    let joined (e : Expr) : Expr := .binary .join (.cell a1) (sum e)
    let compared (e : Expr) : Expr := .binary (.compare .equal) (.cell a1) (joined e)
    let call : Expr := .call "SUM" [compared (.cell a1)]
    let path : List Expr := [compared call, joined call, sum call, product call, call,
      compared (.cell a1), joined (.cell a1), sum (.cell a1), product (.cell a1), .cell a1]
    let beyond : Expr → Except Error Value := fun _ => .error .notFinite
    let cells : Snapshot := fun _ => none
    Expr.ofText limits "A1=A1&A1+A1*SUM(A1=A1&A1+A1*A1)" = .ok (compared call) ∧
      (path.IsChain fun x y => y ∈ x.nested) ∧ path.length = 5 * (limits.maxDepth + 1) ∧
      (activate {} cells)^[10] beyond (compared call) = eval {} cells (compared call) ∧
      (activate {} cells)^[9] beyond (compared call) ≠ eval {} cells (compared call) := by
  intro limits a1 product sum joined compared call path beyond cells
  have hread : Expr.ofText limits "A1=A1&A1+A1*SUM(A1=A1&A1+A1*A1)" = .ok (compared call) := by
    decide +kernel
  have hpath : path.IsChain fun x y => y ∈ x.nested := by decide +kernel
  obtain ⟨hlength, houtcome⟩ := Expr.nesting_le_of_ofText hread
  refine ⟨hread, hpath, le_antisymm (hlength _ hpath) (by decide), houtcome {} cells beyond, ?_⟩
  decide +kernel

end Formula

end Spreadsheet
