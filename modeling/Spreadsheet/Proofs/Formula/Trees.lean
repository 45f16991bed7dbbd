import Mathlib.Tactic.Common
import Spreadsheet.Formula.Expr

/-!
# What expression trees are made of

Equality of trees is decidable, so that readings and evaluations of fixed formulas can be computed
and compared.  `Expr.Mentions` says which addresses a tree mentions, as references or inside its
ranges.  From left to right, `Expr.numbers` lists the numbers of a tree, `Expr.calls` the names that
it calls, and `Expr.parts` the trees in it.  The parts of a tree are the tree and the parts of its
`Expr.children` (`Expr.mem_parts_iff`), so that a property of trees that passes from the children to
the tree is one of all trees (`Expr.induction_children`).
-/

namespace Spreadsheet

namespace Formula

/-! ## Equality -/

mutual

/-- Compares two trees node by node. -/
def Expr.beq : Expr → Expr → Bool
  | .number x, .number y => x == y
  | .text s, .text t => s == t
  | .cell a, .cell b => a == b
  | .range r, .range q => r == q
  | .unary op e, .unary op' e' => op == op' && e.beq e'
  | .binary op l r, .binary op' l' r' => op == op' && l.beq l' && r.beq r'
  | .call name args, .call name' args' => name == name' && beqAll args args'
  | _, _ => false

/-- Compares two lists of trees. -/
def beqAll : List Expr → List Expr → Bool
  | [], [] => true
  | e :: es, e' :: es' => e.beq e' && beqAll es es'
  | _, _ => false

end

mutual

/-- Trees that are found equal node by node are equal. -/
lemma Expr.eq_of_beq : ∀ {e e' : Expr}, e.beq e' = true → e = e'
  | .number _, e', h => by cases e' <;> simp_all [Expr.beq]
  | .text _, e', h => by cases e' <;> simp_all [Expr.beq]
  | .cell _, e', h => by cases e' <;> simp_all [Expr.beq]
  | .range _, e', h => by cases e' <;> simp_all [Expr.beq]
  | .unary op e, e', h => by
    cases e' <;> simp only [Expr.beq, Bool.and_eq_true, beq_iff_eq, Bool.false_eq_true] at h
    rw [h.1, Expr.eq_of_beq h.2]
  | .binary op l r, e', h => by
    cases e' <;> simp only [Expr.beq, Bool.and_eq_true, beq_iff_eq, Bool.false_eq_true] at h
    rw [h.1.1, Expr.eq_of_beq h.1.2, Expr.eq_of_beq h.2]
  | .call name args, e', h => by
    cases e' <;> simp only [Expr.beq, Bool.and_eq_true, beq_iff_eq, Bool.false_eq_true] at h
    rw [h.1, eq_of_beqAll h.2]

/-- Lists of trees that are found equal one by one are equal. -/
lemma eq_of_beqAll : ∀ {es es' : List Expr}, beqAll es es' = true → es = es'
  | [], es', h => by cases es' <;> simp_all [beqAll]
  | e :: es, es', h => by
    cases es' <;> simp only [beqAll, Bool.and_eq_true, Bool.false_eq_true] at h
    rw [Expr.eq_of_beq h.1, eq_of_beqAll h.2]

end

mutual

/-- Every tree is found equal to itself. -/
lemma Expr.beq_self : ∀ e : Expr, e.beq e = true
  | .number _ | .text _ | .cell _ | .range _ => by simp [Expr.beq]
  | .unary _ e => by simp [Expr.beq, e.beq_self]
  | .binary _ l r => by simp [Expr.beq, l.beq_self, r.beq_self]
  | .call _ args => by simp [Expr.beq, beqAll_self args]

lemma beqAll_self : ∀ es : List Expr, beqAll es es = true
  | [] => rfl
  | e :: es => by simp [beqAll, e.beq_self, beqAll_self es]

end

instance : DecidableEq Expr := fun e e' =>
  decidable_of_iff (e.beq e' = true) ⟨Expr.eq_of_beq, fun h => h ▸ e.beq_self⟩

/-! ## Mentioned addresses -/

/-- The tree mentions the address, as a reference or inside one of its ranges. -/
inductive Expr.Mentions (a : Address) : Expr → Prop where
  | cell : Mentions a (.cell a)
  | range {r : Range} (covered : a ∈ r.cells) : Mentions a (.range r)
  | operand {op : UnaryOp} {e : Expr} (inner : Mentions a e) : Mentions a (.unary op e)
  | left {op : BinaryOp} {l r : Expr} (inner : Mentions a l) : Mentions a (.binary op l r)
  | right {op : BinaryOp} {l r : Expr} (inner : Mentions a r) : Mentions a (.binary op l r)
  | argument {name : String} {args : List Expr} {e : Expr} (mem : e ∈ args)
    (inner : Mentions a e) : Mentions a (.call name args)

/-! ## Numbers -/

mutual

/-- The numbers of a tree, from left to right. -/
def Expr.numbers : Expr → List Number
  | .number value => [value]
  | .text _ => []
  | .cell _ => []
  | .range _ => []
  | .unary _ e => e.numbers
  | .binary _ l r => l.numbers ++ r.numbers
  | .call _ args => numbersAll args

/-- The numbers of several trees in a row. -/
def numbersAll : List Expr → List Number
  | [] => []
  | e :: es => e.numbers ++ numbersAll es

end

/-- The numbers of two lists of trees one after the other are those of the first and those of the
second. -/
lemma numbersAll_append (es us : List Expr) :
    numbersAll (es ++ us) = numbersAll es ++ numbersAll us := by
  induction es with
  | nil => rfl
  | cons e es ih => simp only [List.cons_append, numbersAll, ih, List.append_assoc]

/-! ## Calls -/

mutual

/-- The names that a tree calls, from left to right. -/
def Expr.calls : Expr → List String
  | .number _ => []
  | .text _ => []
  | .cell _ => []
  | .range _ => []
  | .unary _ e => e.calls
  | .binary _ l r => l.calls ++ r.calls
  | .call name args => name :: callsAll args

/-- The names that several trees call. -/
def callsAll : List Expr → List String
  | [] => []
  | e :: es => e.calls ++ callsAll es

end

/-- What one of several trees calls is called by the trees. -/
lemma calls_subset_callsAll {e : Expr} {es : List Expr} (h : e ∈ es) : e.calls ⊆ callsAll es := by
  induction es with
  | nil => cases h
  | cons e' es ih =>
    rcases List.mem_cons.mp h with rfl | h
    · exact List.subset_append_left _ _
    · exact List.Subset.trans (ih h) (List.subset_append_right _ _)

/-! ## Parts -/

mutual

/-- The tree itself and the trees below it. -/
def Expr.parts : Expr → List Expr
  | .number value => [.number value]
  | .text content => [.text content]
  | .cell address => [.cell address]
  | .range range => [.range range]
  | .unary op e => .unary op e :: e.parts
  | .binary op l r => .binary op l r :: (l.parts ++ r.parts)
  | .call name args => .call name args :: partsAll args

/-- The parts of several trees in a row. -/
def partsAll : List Expr → List Expr
  | [] => []
  | e :: es => e.parts ++ partsAll es

end

mutual

/-- The numbers of a part are numbers of the tree. -/
lemma Expr.numbers_subset_of_mem_parts : ∀ {e x : Expr}, x ∈ e.parts → x.numbers ⊆ e.numbers
  | .number _, _, h | .text _, _, h | .cell _, _, h | .range _, _, h => by
    rw [List.mem_singleton.mp h]
    exact List.Subset.refl _
  | .unary _ e, _, h => by
    rcases List.mem_cons.mp h with rfl | h
    · exact List.Subset.refl _
    · exact e.numbers_subset_of_mem_parts h
  | .binary _ l r, _, h => by
    rcases List.mem_cons.mp h with rfl | h
    · exact List.Subset.refl _
    · rcases List.mem_append.mp h with h | h
      · exact List.Subset.trans (l.numbers_subset_of_mem_parts h) (List.subset_append_left _ _)
      · exact List.Subset.trans (r.numbers_subset_of_mem_parts h) (List.subset_append_right _ _)
  | .call _ args, _, h => by
    rcases List.mem_cons.mp h with rfl | h
    · exact List.Subset.refl _
    · exact numbersAll_subset_of_mem_partsAll h

/-- A part of one of several trees holds no other numbers than the trees do. -/
lemma numbersAll_subset_of_mem_partsAll : ∀ {es : List Expr} {x : Expr}, x ∈ partsAll es →
    x.numbers ⊆ numbersAll es
  | [], _, h => by cases h
  | e :: es, _, h => by
    rcases List.mem_append.mp h with h | h
    · exact List.Subset.trans (e.numbers_subset_of_mem_parts h) (List.subset_append_left _ _)
    · exact List.Subset.trans (numbersAll_subset_of_mem_partsAll h) (List.subset_append_right _ _)

end

/-! ## Children -/

/-- The operands of the operator at the root of a tree. -/
def Expr.rootOperands : Expr → List Expr
  | .unary _ e => [e]
  | .binary _ l r => [l, r]
  | _ => []

/-- The arguments of the call at the root of a tree. -/
def Expr.rootArguments : Expr → List Expr
  | .call _ args => args
  | _ => []

/-- The trees right below the root of a tree. -/
def Expr.children (e : Expr) : List Expr :=
  e.rootOperands ++ e.rootArguments

/-- Children are smaller than the tree, so that recursion into them ends. -/
lemma Expr.sizeOf_lt_of_mem_children {e y : Expr} (h : y ∈ e.children) : sizeOf y < sizeOf e := by
  cases e with
  | number value => cases h
  | text content => cases h
  | cell address => cases h
  | range range => cases h
  | unary op e =>
    obtain rfl := List.mem_singleton.mp h
    simp only [unary.sizeOf_spec]
    omega
  | binary op l r =>
    simp only [children, rootOperands, rootArguments, List.append_nil, List.mem_cons,
      List.not_mem_nil, or_false] at h
    simp only [binary.sizeOf_spec]
    rcases h with rfl | rfl <;> omega
  | call name args =>
    have hlt := List.sizeOf_lt_of_mem (show y ∈ args from h)
    simp only [call.sizeOf_spec]
    omega

/-- What passes from the children of a tree to the tree holds of all trees. -/
@[elab_as_elim]
theorem Expr.induction_children {motive : Expr → Prop}
    (step : ∀ e : Expr, (∀ y ∈ e.children, motive y) → motive e) (e : Expr) : motive e :=
  step e fun y hy =>
    have := sizeOf_lt_of_mem_children hy
    induction_children step y
termination_by sizeOf e

/-- The parts of several trees are the parts of each one of them. -/
lemma mem_partsAll_iff {es : List Expr} {x : Expr} :
    x ∈ partsAll es ↔ ∃ e ∈ es, x ∈ e.parts := by
  induction es with
  | nil => simp [partsAll]
  | cons e es ih => simp [partsAll, ih]

/-- A tree is the first one of its parts, and the others are the parts of its children. -/
lemma Expr.parts_eq_cons (e : Expr) : e.parts = e :: partsAll e.children := by
  cases e <;> simp [parts, children, rootOperands, rootArguments, partsAll]

/-- The parts of a tree are the tree and the parts of its children. -/
lemma Expr.mem_parts_iff {e x : Expr} :
    x ∈ e.parts ↔ x = e ∨ ∃ y ∈ e.children, x ∈ y.parts := by
  rw [parts_eq_cons, List.mem_cons, mem_partsAll_iff]

/-- Every tree is one of its own parts, the one at the root. -/
lemma Expr.mem_parts_self (e : Expr) : e ∈ e.parts :=
  mem_parts_iff.mpr (.inl rfl)

/-- The parts of a part of a tree are parts of the tree. -/
lemma Expr.parts_subset {e x : Expr} (h : x ∈ e.parts) : x.parts ⊆ e.parts := by
  induction e using induction_children with
  | step e ih =>
    rcases mem_parts_iff.mp h with rfl | ⟨y, hy, hx⟩
    · exact List.Subset.refl _
    · exact fun z hz => mem_parts_iff.mpr (.inr ⟨y, hy, ih y hy hx hz⟩)

/-- Every part but the tree itself is a child of a part. -/
lemma Expr.exists_parent {e x : Expr} (h : x ∈ e.parts) :
    x = e ∨ ∃ p ∈ e.parts, x ∈ p.children := by
  induction e using induction_children with
  | step e ih =>
    rcases mem_parts_iff.mp h with rfl | ⟨y, hy, hx⟩
    · exact .inl rfl
    · right
      rcases ih y hy hx with rfl | ⟨p, hp, hchild⟩
      · exact ⟨e, e.mem_parts_self, hy⟩
      · exact ⟨p, mem_parts_iff.mpr (.inr ⟨y, hy, hp⟩), hchild⟩

end Formula

end Spreadsheet
