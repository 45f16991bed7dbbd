import Spreadsheet.Proofs.Formula.Joining

/-!
# Evaluation is strict

Whatever is wrong anywhere in a formula makes the whole formula fail: an unknown function, a range
that is too large or stands where no call takes it, a text that should be a number, a result that is
not finite.  Nothing is skipped, the unused branches of `IF` included.

`Fault` says what can be wrong at the root of a tree, once the trees below it have values.  A tree
has a value exactly if its operands have one, its arguments are ranges within the limit or have one,
and there is no fault at its root (`exists_eval_iff`).  So it has a value exactly if there is no
fault at any of its parts (`exists_eval_iff_forall_parts`), and then every part that is no range has
a value of its own (`certified_iff`).  The main result, `evaluate_strict`, says this of formulas.
-/

namespace Spreadsheet

namespace Formula

variable {limits : Limits} {cells : Snapshot}

/-! ## Faults -/

/-- The operators that take two numbers. -/
def BinaryOp.isArithmetic : BinaryOp → Bool
  | .subtract => true
  | .multiply => true
  | .divide => true
  | _ => false

/-- The operands at the root of a tree that have to be numbers. -/
def Expr.numericOperands : Expr → List Expr
  | .unary _ e => [e]
  | .binary op l r => if op.isArithmetic then [l, r] else []
  | _ => []

/-- Something is wrong at the root of a tree. -/
inductive Fault (limits : Limits) (cells : Snapshot) : Expr → Prop where
  | unknownFunction {name : String} {args : List Expr} (unknown : Function.ofName? name = none) :
    Fault limits cells (.call name args)
  | largeRange {e : Expr} {r : Range} (argument : .range r ∈ e.rootArguments)
    (large : limits.maxRangeCells < r.cellCount) : Fault limits cells e
  /-- A range stands where a single value is needed. -/
  | misplacedRange {e : Expr} {r : Range} (operand : .range r ∈ e.rootOperands) :
    Fault limits cells e
  | notANumber {e x : Expr} {t : String} (operand : x ∈ e.numericOperands)
    (value : eval limits cells x = .ok (.text t)) (text : Number.ofCellText? t = none) :
    Fault limits cells e
  /-- The outcome of an operator is not finite, or a quotient has a zero below. -/
  | operatorNotFinite {op : BinaryOp} {l r : Expr} {x y : Value}
    (left : eval limits cells l = .ok x) (right : eval limits cells r = .ok y)
    (outcome : applyBinary op x y = .error .notFinite) : Fault limits cells (.binary op l r)
  | functionNotFinite {name : String} {args : List Expr} {f : Function} {found : List Argument}
    {n : Number} (known : Function.ofName? name = some f)
    (arguments : evalArguments limits cells args = .ok found)
    (outcome : f.apply cells found = .number n) (infinite : n.isFinite = false) :
    Fault limits cells (.call name args)

/-- The tree is a range within the limit, or it has a value. -/
def Expr.Admitted (limits : Limits) (cells : Snapshot) (e : Expr) : Prop :=
  (∃ r, e = .range r ∧ r.cellCount ≤ limits.maxRangeCells) ∨ ∃ v, eval limits cells e = .ok v

/-- Everything in a tree is in order: calls name functions, ranges are arguments of calls and within
the limit, and every other part has a value of its own. -/
structure Expr.Certified (limits : Limits) (cells : Snapshot) (e : Expr) : Prop where
  known : ∀ name args, .call name args ∈ e.parts → ∃ f, Function.ofName? name = some f
  /-- A range is neither the whole tree nor an operand. -/
  placed : (∀ r, e ≠ .range r) ∧ ∀ x ∈ e.parts, ∀ r, .range r ∉ x.rootOperands
  small : ∀ r, .range r ∈ e.parts → r.cellCount ≤ limits.maxRangeCells
  evaluates : ∀ x ∈ e.parts, (∀ r, x ≠ .range r) → ∃ v, eval limits cells x = .ok v

/-! ## Operators and functions -/

/-- A value can be taken as a number unless it is a text that is not numeric. -/
lemma exists_toNumber_iff {v : Value} :
    (∃ n, toNumber v = .ok n) ↔ ∀ t, v = .text t → Number.ofCellText? t ≠ none := by
  cases v with
  | number n => simp [toNumber]
  | text t =>
    cases h : Number.ofCellText? t with
    | none => simp [toNumber, h]
    | some n => simp [toNumber, h]

/-- A sign needs an operand that can be taken as a number, and nothing else. -/
lemma exists_applyUnary_iff {op : UnaryOp} {v : Value} :
    (∃ w, applyUnary op v = .ok w) ↔ ∃ n, toNumber v = .ok n := by
  constructor
  · rintro ⟨w, hw⟩
    obtain ⟨n, hn, -⟩ := bind_eq_ok_iff.mp hw
    exact ⟨n, hn⟩
  · rintro ⟨n, hn⟩
    cases op with
    | plus => exact ⟨.number n, bind_eq_ok_iff.mpr ⟨n, hn, rfl⟩⟩
    | minus => exact ⟨.number (-n), bind_eq_ok_iff.mpr ⟨n, hn, rfl⟩⟩

/-- The check for overflow lets pass texts and finite numbers, and nothing else. -/
lemma exists_requireFinite_iff {v : Value} :
    (∃ w, requireFinite v = .ok w) ↔ ∀ n, v = .number n → n.isFinite = true := by
  cases v with
  | text t => simp [requireFinite]
  | number n => cases h : n.isFinite <;> simp [requireFinite, h]

/-- An operator that takes numbers has an outcome of numbers alone. -/
lemma toNumber_of_combine {op : BinaryOp} {x y z : Value} (hop : op.isArithmetic = true)
    (h : combine op x y = .ok z) : (∃ n, toNumber x = .ok n) ∧ ∃ n, toNumber y = .ok n := by
  unfold combine at h
  split at h
  case h_1 => cases hop
  case h_2 => cases hop
  case h_6 => cases hop
  all_goals
    obtain ⟨n, hn, h⟩ := bind_eq_ok_iff.mp h
    obtain ⟨m, hm, -⟩ := bind_eq_ok_iff.mp h
    exact ⟨⟨n, hn⟩, m, hm⟩

/-- With the numbers that it needs an operator can only fail for want of a finite outcome. -/
lemma combine_cases {op : BinaryOp} {x y : Value}
    (h : op.isArithmetic = true → (∃ n, toNumber x = .ok n) ∧ ∃ n, toNumber y = .ok n) :
    (∃ z, combine op x y = .ok z) ∨ combine op x y = .error .notFinite := by
  cases op with
  | compare test => exact .inl ⟨_, rfl⟩
  | join => exact .inl ⟨_, rfl⟩
  | add =>
    left
    cases x with
    | text t => exact ⟨_, rfl⟩
    | number n => cases y <;> exact ⟨_, rfl⟩
  | subtract =>
    obtain ⟨⟨n, hn⟩, m, hm⟩ := h rfl
    exact .inl ⟨.number (n - m), bind_eq_ok_iff.mpr ⟨n, hn, bind_eq_ok_iff.mpr ⟨m, hm, rfl⟩⟩⟩
  | multiply =>
    obtain ⟨⟨n, hn⟩, m, hm⟩ := h rfl
    exact .inl ⟨.number (n * m), bind_eq_ok_iff.mpr ⟨n, hn, bind_eq_ok_iff.mpr ⟨m, hm, rfl⟩⟩⟩
  | divide =>
    obtain ⟨⟨n, hn⟩, m, hm⟩ := h rfl
    have hcombine : combine .divide x y =
        if m.isZero then .error .notFinite else .ok (.number (n / m)) := by
      unfold combine
      rw [hn, hm]
      rfl
    rw [hcombine]
    split
    case isTrue => exact .inr rfl
    case isFalse => exact .inl ⟨_, rfl⟩

/-- An operator has an outcome if it is given the numbers that it needs and the outcome is
finite. -/
lemma exists_applyBinary_iff {op : BinaryOp} {x y : Value} :
    (∃ z, applyBinary op x y = .ok z) ↔
      (op.isArithmetic = true → (∃ n, toNumber x = .ok n) ∧ ∃ n, toNumber y = .ok n) ∧
        applyBinary op x y ≠ .error .notFinite := by
  constructor
  · rintro ⟨z, hz⟩
    obtain ⟨w, hw, -⟩ := bind_eq_ok_iff.mp hz
    exact ⟨fun hop => toNumber_of_combine hop hw, fun herr => nomatch herr.symm.trans hz⟩
  · rintro ⟨hnumbers, hfinite⟩
    unfold applyBinary at hfinite ⊢
    rcases combine_cases hnumbers with ⟨w, hw⟩ | herr
    · rw [hw] at hfinite ⊢
      cases w with
      | text t => exact ⟨_, rfl⟩
      | number n =>
        change ∃ z, requireFinite (.number n) = .ok z
        rw [exists_requireFinite_iff]
        rintro m ⟨⟩
        by_contra hn
        exact hfinite (if_neg hn)
    · rw [herr] at hfinite
      exact absurd rfl hfinite

/-! ## Arguments -/

/-- A call takes an expression as an argument exactly if it is a range that is not too large, or has
a value. -/
lemma exists_evalArgument_iff {e : Expr} :
    (∃ arg, evalArgument limits cells e = .ok arg) ↔ e.Admitted limits cells := by
  cases e with
  | number n => exact iff_of_true ⟨_, rfl⟩ (.inr ⟨_, eval_number n⟩)
  | text t => exact iff_of_true ⟨_, rfl⟩ (.inr ⟨_, eval_text t⟩)
  | cell a => exact iff_of_true ⟨_, rfl⟩ (.inr ⟨_, eval_cell a⟩)
  | range r =>
    simp only [evalArgument, argument, rangeArgument, Expr.Admitted, eval_range]
    split
    case isTrue hr => exact iff_of_true ⟨_, rfl⟩ (.inl ⟨r, rfl, hr⟩)
    case isFalse hr => simp [hr]
  | unary op e => simp [evalArgument, argument, Expr.Admitted, exists_map_eq_ok_iff]
  | binary op l r => simp [evalArgument, argument, Expr.Admitted, exists_map_eq_ok_iff]
  | call name args => simp [evalArgument, argument, Expr.Admitted, exists_map_eq_ok_iff]

/-- A call takes its arguments exactly if it takes each one of them. -/
lemma exists_evalArguments_iff {args : List Expr} :
    (∃ found, evalArguments limits cells args = .ok found) ↔
      ∀ e ∈ args, e.Admitted limits cells := by
  induction args with
  | nil => simp [evalArguments]
  | cons e es ih =>
    rw [List.forall_mem_cons, ← ih, ← exists_evalArgument_iff, evalArguments_cons]
    constructor
    · rintro ⟨found, hfound⟩
      obtain ⟨arg, harg, hfound⟩ := bind_eq_ok_iff.mp hfound
      obtain ⟨others, hothers, -⟩ := bind_eq_ok_iff.mp hfound
      exact ⟨⟨arg, harg⟩, others, hothers⟩
    · rintro ⟨⟨arg, harg⟩, others, hothers⟩
      exact ⟨_, bind_eq_ok_iff.mpr ⟨arg, harg, bind_eq_ok_iff.mpr ⟨others, hothers, rfl⟩⟩⟩

/-! ## One step -/

/-- Only an operator or a call can be at fault itself. The other trees have no operands to fail on.
-/
lemma Fault.inner {e : Expr} (h : Fault limits cells e) :
    e.rootOperands ≠ [] ∨ ∃ name args, e = .call name args := by
  cases h with
  | unknownFunction unknown => exact .inr ⟨_, _, rfl⟩
  | largeRange argument large =>
    cases e with
    | call name args => exact .inr ⟨_, _, rfl⟩
    | _ => cases argument
  | misplacedRange operand => exact .inl (List.ne_nil_of_mem operand)
  | notANumber operand value text =>
    cases e with
    | unary op e => exact .inl (List.cons_ne_nil _ _)
    | binary op l r => exact .inl (List.cons_ne_nil _ _)
    | _ => cases operand
  | operatorNotFinite left right outcome => exact .inl (List.cons_ne_nil _ _)
  | functionNotFinite known arguments outcome infinite => exact .inr ⟨_, _, rfl⟩

/-- An expression with a value is no range, since a range on its own has none. -/
lemma not_range_of_eval {e : Expr} {v : Value} (h : eval limits cells e = .ok v) (r : Range) :
    e ≠ .range r := by
  rintro rfl
  exact nomatch (eval_range r).symm.trans h

/-- An operand has a text to be joined by exactly if it has a value. -/
lemma exists_joinedText_iff {e : Expr} :
    (∃ t, joinedText cells e (eval limits cells e) = .ok t) ↔
      ∃ v, eval limits cells e = .ok v := by
  by_cases hblank : e.RefersToBlank cells
  · exact iff_of_true ⟨"", joinedText_of_refersToBlank hblank _⟩ ⟨_, eval_of_refersToBlank hblank⟩
  · rw [joinedText_of_not_refersToBlank hblank]
    exact exists_map_eq_ok_iff

/-- A signed expression has a value exactly if its operand has one that can be taken as a number. -/
lemma exists_eval_unary_iff {op : UnaryOp} {e : Expr} :
    (∃ v, eval limits cells (.unary op e) = .ok v) ↔
      ∃ v, eval limits cells e = .ok v ∧ ∃ n, toNumber v = .ok n := by
  simp only [eval_unary, bind_eq_ok_iff]
  constructor
  · rintro ⟨w, v, hv, hw⟩
    exact ⟨v, hv, exists_applyUnary_iff.mp ⟨w, hw⟩⟩
  · rintro ⟨v, hv, hn⟩
    obtain ⟨w, hw⟩ := exists_applyUnary_iff.mpr hn
    exact ⟨w, v, hv, hw⟩

/-- An operator gives a value exactly if both of its operands have values that it can be applied to.
-/
lemma exists_eval_binary_iff {op : BinaryOp} {l r : Expr} :
    (∃ v, eval limits cells (.binary op l r) = .ok v) ↔
      ∃ x y, eval limits cells l = .ok x ∧ eval limits cells r = .ok y ∧
        ∃ z, applyBinary op x y = .ok z := by
  by_cases hop : op = .join
  · subst hop
    rw [eval_join]
    constructor
    · rintro ⟨v, hv⟩
      obtain ⟨s, hs, hv⟩ := bind_eq_ok_iff.mp hv
      obtain ⟨t, ht, -⟩ := bind_eq_ok_iff.mp hv
      obtain ⟨x, hx⟩ := exists_joinedText_iff.mp ⟨s, hs⟩
      obtain ⟨y, hy⟩ := exists_joinedText_iff.mp ⟨t, ht⟩
      exact ⟨x, y, hx, hy, _, rfl⟩
    · rintro ⟨x, y, hx, hy, -⟩
      obtain ⟨s, hs⟩ := exists_joinedText_iff.mpr ⟨x, hx⟩
      obtain ⟨t, ht⟩ := exists_joinedText_iff.mpr ⟨y, hy⟩
      exact ⟨_, bind_eq_ok_iff.mpr ⟨s, hs, bind_eq_ok_iff.mpr ⟨t, ht, rfl⟩⟩⟩
  · simp only [eval_binary_of_ne_join hop, bind_eq_ok_iff]
    exact ⟨fun ⟨z, x, hx, y, hy, hz⟩ => ⟨x, y, hx, hy, z, hz⟩,
      fun ⟨x, y, hx, hy, z, hz⟩ => ⟨z, x, hx, y, hy, hz⟩⟩

/-- A call gives a value exactly if it names a function, its arguments can be taken, and the
function gives no number that is out of reach. -/
lemma exists_eval_call_iff {name : String} {args : List Expr} :
    (∃ v, eval limits cells (.call name args) = .ok v) ↔
      ∃ f found, Function.ofName? name = some f ∧ evalArguments limits cells args = .ok found ∧
        ∀ n, f.apply cells found = .number n → n.isFinite = true := by
  simp only [← exists_requireFinite_iff]
  rw [eval_call]
  constructor
  · rintro ⟨v, hv⟩
    split at hv
    case h_1 f hf =>
      obtain ⟨found, hfound, hv⟩ := bind_eq_ok_iff.mp hv
      exact ⟨f, found, hf, hfound, v, hv⟩
    case h_2 => cases hv
  · rintro ⟨f, found, hf, hfound, v, hv⟩
    rw [hf]
    exact ⟨v, bind_eq_ok_iff.mpr ⟨found, hfound, hv⟩⟩

/-- If a tree has a value, then so has every operand of its root: no operator passes over one. -/
lemma exists_eval_of_mem_rootOperands {e y : Expr} {v : Value} (h : eval limits cells e = .ok v)
    (hy : y ∈ e.rootOperands) : ∃ w, eval limits cells y = .ok w := by
  cases e with
  | unary op e =>
    obtain rfl := List.mem_singleton.mp hy
    obtain ⟨w, hw, -⟩ := exists_eval_unary_iff.mp ⟨v, h⟩
    exact ⟨w, hw⟩
  | binary op l r =>
    obtain ⟨x, z, hx, hz, -⟩ := exists_eval_binary_iff.mp ⟨v, h⟩
    rcases List.mem_pair.mp hy with rfl | rfl
    · exact ⟨x, hx⟩
    · exact ⟨z, hz⟩
  | _ => cases hy

/-- If a call has a value, then each of its arguments is admitted: no call passes over one. -/
lemma admitted_of_mem_rootArguments {e y : Expr} {v : Value} (h : eval limits cells e = .ok v)
    (hy : y ∈ e.rootArguments) : y.Admitted limits cells := by
  cases e with
  | call name args =>
    obtain ⟨f, found, -, hfound, -⟩ := exists_eval_call_iff.mp ⟨v, h⟩
    exact exists_evalArguments_iff.mp ⟨found, hfound⟩ y hy
  | _ => cases hy

/-- Where a tree has a value, the operands that it takes as numbers can be taken as such. -/
lemma exists_toNumber_of_mem_numericOperands {e x : Expr} {v w : Value}
    (h : eval limits cells e = .ok v) (hx : x ∈ e.numericOperands)
    (hw : eval limits cells x = .ok w) : ∃ n, toNumber w = .ok n := by
  cases e with
  | unary op e =>
    obtain rfl := List.mem_singleton.mp hx
    obtain ⟨w', hw', hn⟩ := exists_eval_unary_iff.mp ⟨v, h⟩
    obtain rfl := Except.ok.inj (hw.symm.trans hw')
    exact hn
  | binary op l r =>
    obtain ⟨y, z, hy, hz, happly⟩ := exists_eval_binary_iff.mp ⟨v, h⟩
    rw [Expr.numericOperands] at hx
    split at hx
    case isFalse => cases hx
    case isTrue hop =>
      obtain ⟨hleft, hright⟩ := (exists_applyBinary_iff.mp happly).1 hop
      rcases List.mem_pair.mp hx with rfl | rfl
      · obtain rfl := Except.ok.inj (hw.symm.trans hy)
        exact hleft
      · obtain rfl := Except.ok.inj (hw.symm.trans hz)
        exact hright
  | _ => cases hx

/-- A tree with a value has no fault at its root. -/
lemma not_fault_of_eval {e : Expr} {v : Value} (h : eval limits cells e = .ok v) :
    ¬Fault limits cells e := by
  intro hfault
  cases hfault with
  | unknownFunction unknown =>
    obtain ⟨f, -, hf, -⟩ := exists_eval_call_iff.mp ⟨v, h⟩
    exact nomatch unknown.symm.trans hf
  | largeRange argument large =>
    rcases admitted_of_mem_rootArguments h argument with ⟨r, hr, hsmall⟩ | ⟨w, hw⟩
    · obtain rfl := Expr.range.inj hr
      exact Nat.not_lt.mpr hsmall large
    · exact not_range_of_eval hw _ rfl
  | misplacedRange operand =>
    obtain ⟨w, hw⟩ := exists_eval_of_mem_rootOperands h operand
    exact not_range_of_eval hw _ rfl
  | notANumber operand value text =>
    have hnumber := exists_toNumber_of_mem_numericOperands h operand value
    exact exists_toNumber_iff.mp hnumber _ rfl text
  | operatorNotFinite left right outcome =>
    obtain ⟨x, y, hx, hy, z, hz⟩ := exists_eval_binary_iff.mp ⟨v, h⟩
    obtain rfl := Except.ok.inj (left.symm.trans hx)
    obtain rfl := Except.ok.inj (right.symm.trans hy)
    exact nomatch outcome.symm.trans hz
  | functionNotFinite known arguments outcome infinite =>
    obtain ⟨f, found, hf, hfound, hfinite⟩ := exists_eval_call_iff.mp ⟨v, h⟩
    obtain rfl := Option.some.inj (known.symm.trans hf)
    obtain rfl := Except.ok.inj (arguments.symm.trans hfound)
    exact Bool.false_ne_true (infinite.symm.trans (hfinite _ outcome))

/-- Nothing but faults and failures below keeps a tree from having a value. -/
lemma exists_eval_of_not_fault {e : Expr} (hrange : ∀ r, e ≠ .range r)
    (hoperands : ∀ y ∈ e.rootOperands, ∃ v, eval limits cells y = .ok v)
    (harguments : ∀ y ∈ e.rootArguments, y.Admitted limits cells)
    (hfault : ¬Fault limits cells e) : ∃ v, eval limits cells e = .ok v := by
  have hnumeric : ∀ x ∈ e.numericOperands, ∀ w, eval limits cells x = .ok w →
      ∃ n, toNumber w = .ok n := by
    intro x hx w hw
    refine exists_toNumber_iff.mpr ?_
    rintro t rfl htext
    exact hfault (.notANumber hx hw htext)
  cases e with
  | number n => exact ⟨_, eval_number n⟩
  | text t => exact ⟨_, eval_text t⟩
  | cell a => exact ⟨_, eval_cell a⟩
  | range r => exact absurd rfl (hrange r)
  | unary op e =>
    obtain ⟨w, hw⟩ := hoperands e (List.mem_singleton_self e)
    exact exists_eval_unary_iff.mpr ⟨w, hw, hnumeric e (List.mem_singleton_self e) w hw⟩
  | binary op l r =>
    have hl : l ∈ [l, r] := List.mem_cons_self
    have hr : r ∈ [l, r] := List.mem_cons_of_mem l (List.mem_singleton_self r)
    obtain ⟨x, hx⟩ := hoperands l hl
    obtain ⟨y, hy⟩ := hoperands r hr
    refine exists_eval_binary_iff.mpr ⟨x, y, hx, hy, exists_applyBinary_iff.mpr ⟨?_, ?_⟩⟩
    · intro hop
      have hpair : (Expr.binary op l r).numericOperands = [l, r] := if_pos hop
      rw [hpair] at hnumeric
      exact ⟨hnumeric l hl x hx, hnumeric r hr y hy⟩
    · exact fun herr => hfault (.operatorNotFinite hx hy herr)
  | call name args =>
    obtain ⟨found, hfound⟩ := exists_evalArguments_iff.mpr harguments
    cases hf : Function.ofName? name with
    | none => exact absurd (.unknownFunction hf) hfault
    | some f =>
      refine exists_eval_call_iff.mpr ⟨f, found, hf, hfound, fun n hn => ?_⟩
      by_contra hinfinite
      exact hfault (.functionNotFinite hf hfound hn (Bool.eq_false_iff.mpr hinfinite))

/-- A tree other than a range has a value exactly if its operands have one, its arguments are ranges
within the limit or have one, and there is no fault at its root. -/
lemma exists_eval_iff {e : Expr} (h : ∀ r, e ≠ .range r) :
    (∃ v, eval limits cells e = .ok v) ↔
      (∀ y ∈ e.rootOperands, ∃ v, eval limits cells y = .ok v) ∧
        (∀ y ∈ e.rootArguments, y.Admitted limits cells) ∧ ¬Fault limits cells e := by
  constructor
  · rintro ⟨v, hv⟩
    exact ⟨fun y => exists_eval_of_mem_rootOperands hv, fun y => admitted_of_mem_rootArguments hv,
      not_fault_of_eval hv⟩
  · rintro ⟨hoperands, harguments, hfault⟩
    exact exists_eval_of_not_fault h hoperands harguments hfault

/-! ## Whole trees -/

/-- A range is not at fault by itself: whether it may stand where it does is up to the tree above
it. -/
lemma not_fault_range (r : Range) : ¬Fault limits cells (.range r) := by
  rintro (⟨-⟩ | ⟨⟨⟩, -⟩ | ⟨⟨⟩⟩ | ⟨⟨⟩, -, -⟩)

/-- A tree other than a range has a value exactly if there is no fault at any of its parts. -/
lemma exists_eval_iff_forall_parts {e : Expr} (h : ∀ r, e ≠ .range r) :
    (∃ v, eval limits cells e = .ok v) ↔ ∀ x ∈ e.parts, ¬Fault limits cells x := by
  induction e using Expr.induction_children with
  | step e ih =>
    rw [exists_eval_iff h]
    constructor
    · rintro ⟨hoperands, harguments, hfault⟩ x hx
      rcases Expr.mem_parts_iff.mp hx with rfl | ⟨y, hy, hxy⟩
      · exact hfault
      · have hadmitted : y.Admitted limits cells :=
          (List.mem_append.mp hy).elim (fun hy => .inr (hoperands y hy)) (harguments y)
        rcases hadmitted with ⟨r, rfl, -⟩ | ⟨v, hv⟩
        · obtain rfl := List.mem_singleton.mp hxy
          exact not_fault_range r
        · exact (ih y hy (not_range_of_eval hv)).mp ⟨v, hv⟩ x hxy
    · intro hparts
      have hchild : ∀ y ∈ e.children, (∀ r, y ≠ .range r) → ∃ v, eval limits cells y = .ok v := by
        intro y hy hne
        exact (ih y hy hne).mpr fun x hx => hparts x (Expr.mem_parts_iff.mpr (.inr ⟨y, hy, hx⟩))
      refine ⟨fun y hy => ?_, fun y hy => ?_, hparts e e.mem_parts_self⟩
      · refine hchild y (List.mem_append_left _ hy) ?_
        rintro r rfl
        exact hparts e e.mem_parts_self (.misplacedRange hy)
      · by_cases hrange : ∃ r, y = .range r
        · obtain ⟨r, rfl⟩ := hrange
          refine .inl ⟨r, rfl, Nat.le_of_not_lt fun hlarge => ?_⟩
          exact hparts e e.mem_parts_self (.largeRange hy hlarge)
        · exact .inr (hchild y (List.mem_append_right _ hy) (not_exists.mp hrange))

/-- A tree has a value exactly if everything in it is in order. -/
lemma certified_iff {e : Expr} :
    e.Certified limits cells ↔ ∃ v, eval limits cells e = .ok v := by
  constructor
  · intro h
    exact h.evaluates e e.mem_parts_self h.placed.1
  · rintro ⟨v, hv⟩
    have hrange := not_range_of_eval hv
    have hparts := (exists_eval_iff_forall_parts hrange).mp ⟨v, hv⟩
    refine ⟨fun name args hmem => ?_, ⟨hrange, fun x hx r hr => ?_⟩, fun r hmem => ?_,
      fun x hx hne => ?_⟩
    · by_contra hunknown
      exact hparts _ hmem (.unknownFunction (Option.eq_none_iff_forall_not_mem.mpr
        (not_exists.mp hunknown)))
    · exact hparts x hx (.misplacedRange hr)
    · rcases Expr.exists_parent hmem with heq | ⟨p, hp, hchild⟩
      · exact absurd heq.symm (hrange r)
      · rcases List.mem_append.mp hchild with hoperand | hargument
        · exact absurd (.misplacedRange hoperand) (hparts p hp)
        · exact Nat.le_of_not_lt fun hlarge => hparts p hp (.largeRange hargument hlarge)
    · exact (exists_eval_iff_forall_parts hne).mpr fun y hy =>
        hparts y (Expr.parts_subset hx hy)

/-! ## Formulas -/

/-- A formula with a value is read as a tree in which everything is in order: each call names a
function, each range is an argument of a call and within the limit, and each part that is no range,
used or not, has a value of its own.  A formula within the length limit that is read as a tree fails
exactly if the tree is a range or there is a fault at one of its parts. -/
theorem evaluate_strict (limits : Limits) (cells : Snapshot) (formula : String) :
    (∀ v, evaluate limits cells formula = .ok v →
      ∃ e, Expr.ofText limits (body formula) = .ok e ∧ e.Certified limits cells) ∧
    ∀ e, Expr.ofText limits (body formula) = .ok e → formula.length ≤ limits.maxLength →
      ((∃ err, evaluate limits cells formula = .error err) ↔
        (∃ r, e = .range r) ∨ ∃ x ∈ e.parts, Fault limits cells x) := by
  constructor
  · intro v hv
    unfold evaluate at hv
    split at hv
    case isTrue =>
      obtain ⟨e, he, heval⟩ := bind_eq_ok_iff.mp hv
      exact ⟨e, he, certified_iff.mpr ⟨v, heval⟩⟩
    case isFalse => cases hv
  · intro e he hlength
    have hfails : (∃ err, eval limits cells e = .error err) ↔
        ¬∃ v, eval limits cells e = .ok v := by
      cases eval limits cells e <;> simp
    rw [evaluate_eq_eval he hlength, hfails]
    by_cases hrange : ∃ r, e = .range r
    · obtain ⟨r, rfl⟩ := hrange
      refine iff_of_true ?_ (.inl ⟨r, rfl⟩)
      rintro ⟨v, hv⟩
      exact not_range_of_eval hv r rfl
    · rw [exists_eval_iff_forall_parts (not_exists.mp hrange), or_iff_right hrange]
      simp only [not_forall, not_not, exists_prop]

/-- A branch of `IF` that is not used has a value all the same, or else it makes the call fail. -/
theorem evaluate_strict_unusedBranch :
    let limits : Limits := { maxRangeCells := 4, nestedCalls := true }
    let cells : Snapshot := fun _ => some "1"
    (evaluate limits cells "=IF(A1,-A1,SUM(A1:B2)&A1)" = .ok (.number (-.one)) ∧
      ∃ e, Expr.ofText limits "IF(A1,-A1,SUM(A1:B2)&A1)" = .ok e ∧ e.Certified limits cells) ∧
    ∃ e, Expr.ofText limits "IF(A1,-A1,1/0)" = .ok e ∧ (∃ x ∈ e.parts, Fault limits cells x) ∧
      ∃ err, evaluate limits cells "=IF(A1,-A1,1/0)" = .error err := by
  intro limits cells
  have hvalue : evaluate limits cells "=IF(A1,-A1,SUM(A1:B2)&A1)" = .ok (.number (-.one)) := by
    decide +kernel
  have hused : body "=IF(A1,-A1,SUM(A1:B2)&A1)" = "IF(A1,-A1,SUM(A1:B2)&A1)" := by decide +kernel
  obtain ⟨e, he, hcertified⟩ := (evaluate_strict limits cells _).1 _ hvalue
  rw [hused] at he
  let a1 : Expr := .cell ⟨⟨1, by decide, by decide⟩, ⟨1, by decide, by decide⟩⟩
  let quotient : Expr := .binary .divide (.number .one) (.number .zero)
  let e' : Expr := .call "IF" [a1, .unary .minus a1, quotient]
  have hunused : body "=IF(A1,-A1,1/0)" = "IF(A1,-A1,1/0)" := by decide +kernel
  have he' : Expr.ofText limits "IF(A1,-A1,1/0)" = .ok e' := by decide +kernel
  have hmem : quotient ∈ e'.parts := by decide +kernel
  have hzero : applyBinary .divide (.number .one) (.number .zero) = .error .notFinite := by
    decide +kernel
  have hfault : ∃ x ∈ e'.parts, Fault limits cells x :=
    ⟨quotient, hmem, .operatorNotFinite (eval_number _) (eval_number _) hzero⟩
  have hstrict := (evaluate_strict limits cells "=IF(A1,-A1,1/0)").2 e'
  rw [hunused] at hstrict
  exact ⟨⟨hvalue, e, he, hcertified⟩, e', he', hfault,
    (hstrict he' (by decide)).mpr (.inr hfault)⟩

end Formula

end Spreadsheet
