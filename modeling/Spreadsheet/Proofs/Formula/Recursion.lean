import Mathlib.Data.List.Basic
import Spreadsheet.Proofs.Formula.Locality

/-!
# Evaluation by recursion on the tree

The evaluator walks down the left spine of a chain of operators with the operators that wait.  Seen
from outside it is a recursion on the tree all the same: a waiting operator may be applied as soon
as its left operand is known (`chain_cons`), so every expression is an operand like any other one
(`evalChain_eq_chain`), and an operator needs no more than its two operands (`eval_binary`).

The main result, `eval_eq_value`, is that the walk gives what `Expr.value` gives, the value of a
tree by plain recursion, errors included.  The two treat `&` differently: the recursion looks at
both of its operands for a reference to a blank cell, while the loop looks at the first operand of a
chain only where the innermost operator joins, and takes any later left operand by the text it
shows.
-/

namespace Spreadsheet

namespace Formula

/-! ## Chains -/

/-- The outcome of the first operand of a chain, which is joined when the first operator joins. -/
def chainStart (x : Operand) : List Pending → Except Error Value
  | ⟨.join, _⟩ :: _ => x.joined
  | _ => x.outcome ()

/-- A chain starts with its first operand, and then its operators are applied from left to right. -/
lemma chain_eq (x : Operand) (pending : List Pending) :
    chain x pending = chainStart x pending >>= pending.foldlM Pending.apply := by
  match pending with
  | [] => rfl
  | ⟨op, _⟩ :: _ => cases op <;> rfl

/-- The first operator alone decides how the first operand is taken. -/
lemma chainStart_cons (x : Operand) (p : Pending) (pending : List Pending) :
    chainStart x (p :: pending) = chainStart x [p] := by
  obtain ⟨op, right⟩ := p
  cases op <;> rfl

/-- Without pending operators a chain has the outcome of its operand. -/
lemma chain_nil (x : Operand) : chain x [] = x.outcome () := by
  rw [chain_eq]
  exact bind_pure _

/-- A single operator is applied to what the chain starts with. -/
lemma chain_singleton (x : Operand) (p : Pending) :
    chain x [p] = chainStart x [p] >>= fun v => p.apply v := by
  rw [chain_eq]
  simp only [List.foldlM_cons, List.foldlM_nil, bind_pure]

/-- An operator that joins takes its left operand by the text that shows it. -/
lemma Pending.apply_text_display (right : Operand) (v : Value) :
    Pending.apply (.text v.display) ⟨.join, right⟩ = Pending.apply v ⟨.join, right⟩ :=
  rfl

/-- The innermost operator may be applied first, and the rest of the chain starts from its
outcome. -/
lemma chain_cons (x : Operand) (p : Pending) (pending : List Pending) :
    chain x (p :: pending) = chain ⟨false, fun _ => chain x [p]⟩ pending := by
  have hfirst : chain x (p :: pending) = chain x [p] >>= pending.foldlM Pending.apply := by
    rw [chain_singleton, chain_eq, chainStart_cons, bind_assoc]
    simp only [List.foldlM_cons]
  rw [hfirst, chain_eq ⟨false, fun _ => chain x [p]⟩]
  match pending with
  | [] => rfl
  | ⟨op, right⟩ :: pending =>
    cases op with
    | join =>
      simp only [chainStart, Operand.joined, List.foldlM_cons, Bool.false_eq_true, if_false,
        bind_assoc, pure_bind, Pending.apply_text_display]
    | _ => rfl

/-! ## Expressions -/

variable {limits : Limits} {cells : Snapshot}

/-- An expression as an operand of a chain. -/
def operand (limits : Limits) (cells : Snapshot) (e : Expr) : Operand :=
  ⟨isBlankCell cells e, fun _ => eval limits cells e⟩

/-- In front of waiting operators an expression is an operand like any other one. -/
lemma evalChain_eq_chain : ∀ (e : Expr) (pending : List Pending),
    evalChain limits cells e pending = chain (operand limits cells e) pending
  | .number _, _ | .text _, _ | .cell _, _ | .range _, _ | .unary _ _, _ | .call _ _, _ => by
    simp only [evalChain, operand, isBlankCell, eval, chain_nil]
  | .binary op l r, pending => by
    have hl := fun pending => evalChain_eq_chain l pending
    have hbinary : eval limits cells (.binary op l r) =
        chain (operand limits cells l) [⟨op, operand limits cells r⟩] := by
      simp only [eval, evalChain, hl]
      rfl
    have hoperand : operand limits cells (.binary op l r) =
        ⟨false, fun _ => chain (operand limits cells l) [⟨op, operand limits cells r⟩]⟩ :=
      congrArg (fun outcome => Operand.mk false fun _ => outcome) hbinary
    simp only [evalChain, hl]
    rw [chain_cons, hoperand]
    rfl

lemma eval_number (n : Number) : eval limits cells (.number n) = .ok (.number n) := by
  simp only [eval, evalChain, chain_nil]

lemma eval_text (content : String) : eval limits cells (.text content) = .ok (.text content) := by
  simp only [eval, evalChain, chain_nil]

lemma eval_cell (a : Address) : eval limits cells (.cell a) = .ok (cells.content a).value := by
  simp only [eval, evalChain, chain_nil]

lemma eval_range (r : Range) : eval limits cells (.range r) = .error (.rangeAsValue r) := by
  simp only [eval, evalChain, chain_nil]

/-- A sign is applied to the value of its operand. -/
lemma eval_unary (op : UnaryOp) (e : Expr) :
    eval limits cells (.unary op e) = eval limits cells e >>= applyUnary op := by
  simp only [eval, evalChain, chain_nil]

/-- An operator makes a chain of its two operands, whatever the left one is. -/
lemma eval_binary (op : BinaryOp) (l r : Expr) : eval limits cells (.binary op l r) =
    chain (operand limits cells l) [⟨op, operand limits cells r⟩] := by
  simp only [eval, evalChain, evalChain_eq_chain l]
  rfl

/-- The arguments of a call are taken one after the other. -/
lemma evalArguments_eq_mapM (args : List Expr) :
    evalArguments limits cells args = args.mapM (evalArgument limits cells) := by
  induction args with
  | nil => simp only [evalArguments]; rfl
  | cons e es ih => rw [evalArguments_cons, List.mapM_cons, ih]

/-- A call looks up its function first, then evaluates its arguments, and then applies the one to
the others. -/
lemma eval_call (name : String) (args : List Expr) : eval limits cells (.call name args) =
    match Function.ofName? name with
    | some f => do applyFunction cells f (← evalArguments limits cells args)
    | none => .error (.unknownFunction name) := by
  simp only [eval, evalChain]
  exact chain_nil _

/-! ## The plain recursion -/

/-- The text that an operand adds where it is joined.  A reference to a cell that is missing or
blank adds nothing, and anything else adds the text that shows its outcome. -/
def joinedText (cells : Snapshot) (e : Expr) (outcome : Except Error Value) :
    Except Error String :=
  match e with
  | .cell a => if (cells a).all Text.isBlank then .ok "" else outcome.map Value.display
  | _ => outcome.map Value.display

mutual

/-- The value of an expression by plain recursion: an operator is applied to the values of its two
operands, the left one first. -/
def Expr.value (limits : Limits) (cells : Snapshot) : Expr → Except Error Value
  | .number n => .ok (.number n)
  | .text content => .ok (.text content)
  | .cell a => .ok (cells.content a).value
  | .range r => .error (.rangeAsValue r)
  | .unary op e => do applyUnary op (← e.value limits cells)
  | .binary .join l r => do
    let left ← joinedText cells l (l.value limits cells)
    let right ← joinedText cells r (r.value limits cells)
    return .text (left ++ right)
  | .binary op l r => do
    let left ← l.value limits cells
    let right ← r.value limits cells
    applyBinary op left right
  | .call name args =>
    match Function.ofName? name with
    | some f => do applyFunction cells f (← argumentValues limits cells args)
    | none => .error (.unknownFunction name)

/-- The arguments of a call, with the values of those that are neither literals nor cells nor
ranges. -/
def argumentValues (limits : Limits) (cells : Snapshot) : List Expr → Except Error (List Argument)
  | [] => .ok []
  | e :: es => do
    let arg ← match e with
      | .number n => .ok (.number n)
      | .text content => .ok (.text content)
      | .cell a => .ok (.cell a)
      | .range r => rangeArgument limits r
      | e => (e.value limits cells).map Argument.ofValue
    return arg :: (← argumentValues limits cells es)

end

/-- An operand is joined by the text that it adds. -/
lemma joined_operand (e : Expr) : (operand limits cells e).joined =
    (joinedText cells e (eval limits cells e)).map Value.text := by
  have hvalue : ∀ outcome : Except Error Value,
      (do return .text (← outcome).display : Except Error Value) =
        (outcome.map Value.display).map Value.text := by
    intro outcome
    cases outcome <;> rfl
  cases e with
  | cell a =>
    by_cases hblank : (cells a).all Text.isBlank = true
    · simp only [Operand.joined, operand, isBlankCell_cell, joinedText, hblank]
      rfl
    · simp only [Operand.joined, operand, isBlankCell_cell, joinedText, hblank]
      exact hvalue _
  | _ => exact hvalue _

/-- An operator that joins takes the texts of its operands, the left one first. -/
lemma eval_join (l r : Expr) : eval limits cells (.binary .join l r) = (do
    let left ← joinedText cells l (eval limits cells l)
    let right ← joinedText cells r (eval limits cells r)
    return .text (left ++ right)) := by
  rw [eval_binary, chain_singleton]
  simp only [chainStart, Pending.apply, joined_operand]
  cases joinedText cells l (eval limits cells l) with
  | error e => rfl
  | ok left =>
    cases joinedText cells r (eval limits cells r) with
    | error e => rfl
    | ok right => rfl

/-- Any other operator takes the values of its operands, the left one first. -/
lemma eval_binary_of_ne_join {op : BinaryOp} (h : op ≠ .join) (l r : Expr) :
    eval limits cells (.binary op l r) = (do
      let left ← eval limits cells l
      let right ← eval limits cells r
      applyBinary op left right) := by
  rw [eval_binary, chain_singleton]
  cases op with
  | join => exact absurd rfl h
  | _ => rfl

/-- Arguments are made as in the plain recursion, if this gives their values. -/
lemma evalArguments_eq_argumentValues {args : List Expr}
    (h : ∀ e ∈ args, eval limits cells e = e.value limits cells) :
    evalArguments limits cells args = argumentValues limits cells args := by
  induction args with
  | nil => simp only [evalArguments, argumentValues]
  | cons e es ih =>
    have he := h e List.mem_cons_self
    rw [evalArguments_cons, ih fun x hx => h x (List.mem_cons_of_mem e hx)]
    cases e <;> simp only [evalArgument, argument, argumentValues, he]

/-- The loop along a chain of operators gives the value that plain recursion gives, and fails with
the same error where there is none, for chains of any length and with any mix of operators. -/
theorem eval_eq_value (limits : Limits) (cells : Snapshot) (e : Expr) :
    eval limits cells e = e.value limits cells := by
  cases e with
  | number n => rw [eval_number, Expr.value]
  | text content => rw [eval_text, Expr.value]
  | cell a => rw [eval_cell, Expr.value]
  | range r => rw [eval_range, Expr.value]
  | unary op e => rw [eval_unary, Expr.value, eval_eq_value limits cells e]
  | binary op l r =>
    have hl := eval_eq_value limits cells l
    have hr := eval_eq_value limits cells r
    by_cases hop : op = .join
    · rw [hop, eval_join, Expr.value, hl, hr]
    · rw [eval_binary_of_ne_join hop, hl, hr, Expr.value]
      exact hop
  | call name args =>
    have hargs : ∀ e ∈ args, eval limits cells e = e.value limits cells :=
      fun e _ => eval_eq_value limits cells e
    rw [eval_call, Expr.value, evalArguments_eq_argumentValues hargs]

end Formula

end Spreadsheet
