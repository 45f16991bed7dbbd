import Mathlib.Data.List.Forall2
import Spreadsheet.Proofs.Formula.Locality

/-!
# Raising the limits

Limits only ever turn an outcome into an error that names the limit.  The main result,
`evaluate_eq_of_le`, says that a formula whose evaluation no limit stopped has the same outcome, be
it a value or an error, under all limits that allow more.

The proof runs both evaluations side by side.  `Persists x y` says that the second outcome is the
first one unless a limit stopped the first; it is preserved by sequencing
(`Persists.bind`), so it holds of each step of the reader, of a whole reading, and of each
expression by induction on the tree.  The operators that wait in a chain are compared by what their
right operands would give (`Pending.Persists`).
-/

namespace Spreadsheet

/-- The second limits allow whatever the first ones allow. -/
structure Limits.Le (limits limits' : Limits) : Prop where
  maxLength : limits.maxLength ≤ limits'.maxLength
  maxDepth : limits.maxDepth ≤ limits'.maxDepth
  maxRangeCells : limits.maxRangeCells ≤ limits'.maxRangeCells
  nestedCalls : limits.nestedCalls = true → limits'.nestedCalls = true

instance : LE Limits := ⟨Limits.Le⟩

/-- Some limits allow whatever any of two allow. -/
lemma Limits.exists_le_and_le (limits limits' : Limits) :
    ∃ higher : Limits, limits ≤ higher ∧ limits' ≤ higher := by
  let higher : Limits := {
    maxLength := max limits.maxLength limits'.maxLength
    maxDepth := max limits.maxDepth limits'.maxDepth
    maxRangeCells := max limits.maxRangeCells limits'.maxRangeCells
    nestedCalls := true }
  have hle : limits ≤ higher :=
    ⟨Nat.le_max_left _ _, Nat.le_max_left _ _, Nat.le_max_left _ _, fun _ => rfl⟩
  have hle' : limits' ≤ higher :=
    ⟨Nat.le_max_right _ _, Nat.le_max_right _ _, Nat.le_max_right _ _, fun _ => rfl⟩
  exact ⟨higher, hle, hle'⟩

namespace Formula

/-- The error names a limit. -/
def Error.IsLimit : Error → Prop
  | .nestedCall _ => True
  | .tooLong _ => True
  | .tooDeep _ => True
  | .rangeTooLarge _ _ => True
  | _ => False

/-! ## Outcomes side by side -/

/-- A limit stopped the first computation, or the second one has the same outcome. -/
def Persists {α : Type} (x y : Except Error α) : Prop :=
  (∃ err, x = .error err ∧ err.IsLimit) ∨ x = y

section Persists

variable {α β : Type} {x y : Except Error α}

/-- What does not ask for the limits stays what it is. -/
lemma Persists.refl (x : Except Error α) : Persists x x :=
  .inr rfl

/-- An outcome that a limit has stopped says nothing about what would follow under larger limits. -/
lemma Persists.of_limit {err : Error} (h : err.IsLimit) (y : Except Error α) :
    Persists (.error err) y :=
  .inl ⟨err, rfl, h⟩

/-- An outcome that no limit has stopped is the same under the larger limits. -/
lemma Persists.eq_of_not_isLimit (h : Persists x y) (hx : ∀ err, x = .error err → ¬err.IsLimit) :
    y = x := by
  rcases h with ⟨err, rfl, hlimit⟩ | rfl
  · exact absurd hlimit (hx err rfl)
  · rfl

/-- A test that passes under the first limits passes under the second ones. -/
lemma Persists.guard {p q : Prop} [Decidable p] [Decidable q] {err err' : Error} (hpq : p → q)
    (herr : err.IsLimit) (h : Persists x y) :
    Persists (if p then x else .error err) (if q then y else .error err') := by
  by_cases hp : p
  · rw [if_pos hp, if_pos (hpq hp)]
    exact h
  · rw [if_neg hp]
    exact .of_limit herr _

/-- Where the first of two computations persists, and the second one for each of its results, both
together do. -/
lemma Persists.bind {f g : α → Except Error β} (h : Persists x y) (hf : ∀ a, Persists (f a) (g a)) :
    Persists (x >>= f) (y >>= g) := by
  rcases h with ⟨err, rfl, hlimit⟩ | rfl
  · exact .of_limit hlimit _
  · cases x with
    | error err => exact .refl _
    | ok a => exact hf a

/-- If a result persists, then so does whatever is made of it. -/
lemma Persists.map {f : α → β} (h : Persists x y) : Persists (x.map f) (y.map f) := by
  rcases h with ⟨err, rfl, hlimit⟩ | rfl
  · exact .of_limit hlimit _
  · exact .refl _

/-- If each step persists, then so does a run of them. The proof is by induction on the run. -/
lemma Persists.foldlM {γ δ : Type} {r : γ → δ → Prop} {f : α → γ → Except Error α}
    {g : α → δ → Except Error α} (hstep : ∀ a c d, r c d → Persists (f a c) (g a d))
    {cs : List γ} {ds : List δ} (h : List.Forall₂ r cs ds) (a : α) :
    Persists (cs.foldlM f a) (ds.foldlM g a) := by
  induction h generalizing a with
  | nil => exact .refl _
  | cons hcd _ ih =>
    rw [List.foldlM_cons, List.foldlM_cons]
    exact (hstep a _ _ hcd).bind ih

end Persists

variable {limits limits' : Limits}

/-! ## Reading -/

/-- There is room for a construct under limits that allow more, if there is room for it at all. -/
lemma Progress.enter_persists (h : limits ≤ limits') (p : Progress) (frame : Frame)
    (awaiting : Awaiting) :
    Persists (p.enter limits frame awaiting) (p.enter limits' frame awaiting) := by
  have room : p.depth < limits.maxDepth → p.depth < limits'.maxDepth :=
    fun hlt => Nat.lt_of_lt_of_le hlt h.maxDepth
  exact .guard room trivial (.refl _)

/-- An operand is taken under limits that allow more as it was before. -/
lemma Progress.takeOperand_persists (h : limits ≤ limits') (p : Progress) (found : Placed) :
    Persists (p.takeOperand limits found) (p.takeOperand limits' found) := by
  unfold Progress.takeOperand
  split
  case h_5 => exact Progress.enter_persists h _ _ _
  case h_6 =>
    split
    · exact Progress.enter_persists h _ _ _
    · exact .refl _
  all_goals exact .refl _

/-- The reader takes a token as before, unless a limit stopped it there. -/
lemma Progress.take_persists (h : limits ≤ limits') (p : Progress) (found : Placed) :
    Persists (p.take limits found) (p.take limits' found) := by
  unfold Progress.take
  split
  case h_1 => exact Progress.takeOperand_persists h _ _
  case h_2 name _ =>
    split
    · by_cases leave : 0 < p.calls ∧ ¬limits.nestedCalls = true
      · rw [if_pos leave]
        have hstop : (Error.nestedCall name).IsLimit := trivial
        exact .of_limit hstop _
      · have leave' : ¬(0 < p.calls ∧ ¬limits'.nestedCalls = true) :=
          fun hcalls => leave ⟨hcalls.1, fun hn => hcalls.2 (h.nestedCalls hn)⟩
        rw [if_neg leave, if_neg leave']
        exact Progress.enter_persists h _ _ _
    · exact .refl _
  case h_3 =>
    split
    · exact .refl _
    · exact Progress.takeOperand_persists h _ _
  all_goals exact .refl _

/-- A run of the reader goes on as before, unless a limit stopped it. -/
lemma Progress.foldlM_persists (h : limits ≤ limits') (found : List Placed) (p : Progress) :
    Persists (found.foldlM (Progress.take limits) p) (found.foldlM (Progress.take limits') p) := by
  refine Persists.foldlM ?_ (List.forall₂_same.mpr fun _ _ => rfl) p
  rintro q t _ rfl
  exact Progress.take_persists h q t

/-- What is read of tokens stays what it is under limits that allow more, as the run of the reader
does: accepting the end of it asks for no limit. -/
lemma Expr.ofTokens_persists (h : limits ≤ limits') (found : List Placed) :
    Persists (Expr.ofTokens limits found) (Expr.ofTokens limits' found) :=
  (Progress.foldlM_persists h found .start).bind fun _ => .refl _

/-- What is read of a text stays what it is under limits that allow more: no limit is asked for when
the text is split into tokens. -/
lemma Expr.ofText_persists (h : limits ≤ limits') (s : String) :
    Persists (Expr.ofText limits s) (Expr.ofText limits' s) := by
  unfold Expr.ofText
  cases tokens s with
  | error fault => exact .refl _
  | ok found => exact Expr.ofTokens_persists h found

/-! ## Chains of operators -/

/-- The operands are blank cells alike, and the outcome of the first one persists. -/
def Operand.Persists (x y : Operand) : Prop :=
  x.isBlankCell = y.isBlankCell ∧ Formula.Persists (x.outcome ()) (y.outcome ())

lemma Operand.Persists.refl (x : Operand) : x.Persists x :=
  ⟨rfl, .refl _⟩

/-- Operands persist with their outcomes: whether they are blank cells does not depend on the
limits. -/
lemma Operand.persists_of_outcome (isBlankCell : Bool) {f g : Unit → Except Error Value}
    (h : Formula.Persists (f ()) (g ())) :
    Operand.Persists ⟨isBlankCell, f⟩ ⟨isBlankCell, g⟩ :=
  ⟨rfl, h⟩

/-- The same operator waits, and its right operand persists. -/
def Pending.Persists (p q : Pending) : Prop :=
  p.op = q.op ∧ p.right.Persists q.right

/-- What an operand adds where it is joined persists with its outcome. -/
lemma Operand.joined_persists {x y : Operand} (h : x.Persists y) :
    Formula.Persists x.joined y.joined := by
  unfold Operand.joined
  rw [h.1]
  split
  · exact .refl _
  · exact h.2.bind fun _ => .refl _

/-- A waiting operator persists with its right operand. -/
lemma Pending.apply_persists {p q : Pending} (h : p.Persists q) (left : Value) :
    Formula.Persists (p.apply left) (q.apply left) := by
  obtain ⟨op, right⟩ := p
  obtain ⟨op', right'⟩ := q
  obtain ⟨hop, hright⟩ := h
  obtain rfl : op = op' := hop
  cases op with
  | join => exact (Operand.joined_persists hright).bind fun _ => .refl _
  | _ => exact hright.2.bind fun _ => .refl _

/-- A chain persists when its first operand and all that are still pending do. -/
lemma chain_persists {x y : Operand} (h : x.Persists y) {ps qs : List Pending}
    (hs : List.Forall₂ Pending.Persists ps qs) : Persists (chain x ps) (chain y qs) := by
  have hstep : ∀ left p q, Pending.Persists p q →
      Formula.Persists (Pending.apply left p) (Pending.apply left q) :=
    fun left p q hpq => Pending.apply_persists hpq left
  have hrest : ∀ first, Persists (ps.foldlM Pending.apply first) (qs.foldlM Pending.apply first) :=
    Persists.foldlM hstep hs
  cases hs with
  | nil => exact h.2.bind hrest
  | @cons p q ps qs hpq _ =>
    obtain ⟨op, right⟩ := p
    obtain ⟨op', right'⟩ := q
    obtain rfl : op = op' := hpq.1
    cases op with
    | join => exact (Operand.joined_persists h).bind hrest
    | _ => exact h.2.bind hrest

/-! ## Expressions -/

variable {cells : Snapshot}

/-- A range that was not too large as an argument is not too large under limits that allow more. -/
lemma rangeArgument_persists (h : limits ≤ limits') (r : Range) :
    Persists (rangeArgument limits r) (rangeArgument limits' r) := by
  have hcount : r.cellCount ≤ limits.maxRangeCells → r.cellCount ≤ limits'.maxRangeCells :=
    fun hle => Nat.le_trans hle h.maxRangeCells
  exact .guard hcount trivial (.refl _)

mutual

/-- Walking down a chain persists with the operators that wait. -/
lemma evalChain_persists (h : limits ≤ limits') : ∀ (e : Expr) {ps qs : List Pending},
    List.Forall₂ Pending.Persists ps qs →
    Persists (evalChain limits cells e ps) (evalChain limits' cells e qs)
  | .number _, _, _, hs => by
    simp only [evalChain]
    exact chain_persists (.refl _) hs
  | .text _, _, _, hs => by
    simp only [evalChain]
    exact chain_persists (.refl _) hs
  | .cell _, _, _, hs => by
    simp only [evalChain]
    exact chain_persists (.refl _) hs
  | .range _, _, _, hs => by
    simp only [evalChain]
    exact chain_persists (.refl _) hs
  | .unary op e, _, _, hs => by
    have he := evalChain_persists h e List.Forall₂.nil
    simp only [evalChain]
    refine chain_persists (Operand.persists_of_outcome _ ?_) hs
    exact he.bind fun v => .refl (applyUnary op v)
  | .binary op l r, _, _, hs => by
    have hr := evalChain_persists h r List.Forall₂.nil
    simp only [evalChain]
    exact evalChain_persists h l (.cons ⟨rfl, Operand.persists_of_outcome _ hr⟩ hs)
  | .call name args, _, _, hs => by
    have hargs := evalArguments_persists h args
    simp only [evalChain]
    refine chain_persists (Operand.persists_of_outcome _ ?_) hs
    cases Function.ofName? name with
    | none => exact .refl _
    | some f => exact hargs.bind fun found => .refl (applyFunction cells f found)

/-- The arguments of a call persist one by one, so the whole list does under larger limits. -/
lemma evalArguments_persists (h : limits ≤ limits') : ∀ args : List Expr,
    Persists (evalArguments limits cells args) (evalArguments limits' cells args)
  | [] => by
    simp only [evalArguments]
    exact .refl _
  | e :: es => by
    have hes := evalArguments_persists h es
    have he := evalChain_persists h e List.Forall₂.nil
    have hfirst : Persists (evalArgument limits cells e) (evalArgument limits' cells e) := by
      cases e with
      | number | text | cell => exact .refl _
      | range r => exact rangeArgument_persists h r
      | unary | binary | call => exact he.map
    rw [evalArguments_cons, evalArguments_cons]
    exact hfirst.bind fun arg => hes.bind fun args => .refl (.ok (arg :: args))

end

/-! ## Formulas -/

/-- An evaluation that no limit stopped has the same outcome under limits that allow more. -/
theorem evaluate_eq_of_le (h : limits ≤ limits') (cells : Snapshot) (formula : String)
    (hlimit : ∀ err, evaluate limits cells formula = .error err → ¬err.IsLimit) :
    evaluate limits' cells formula = evaluate limits cells formula := by
  have hpersists : Persists (evaluate limits cells formula) (evaluate limits' cells formula) := by
    have hlength : formula.length ≤ limits.maxLength → formula.length ≤ limits'.maxLength :=
      fun hle => Nat.le_trans hle h.maxLength
    refine .guard hlength trivial ?_
    exact (Expr.ofText_persists h _).bind fun e => evalChain_persists h e List.Forall₂.nil
  rcases hpersists with ⟨err, herr, hstop⟩ | heq
  · exact absurd hstop (hlimit err herr)
  · exact heq.symm

/-- Limits that just suffice for a formula, and an error that names none of them. -/
theorem evaluate_eq_of_le_notANumber :
    (⟨14, 1, 2, false⟩ : Limits) ≤ {} ∧
      (∀ err, evaluate ⟨14, 1, 2, false⟩ (fun _ => some "x") "=SUM(A1:A2)-A1" = .error err →
        ¬err.IsLimit) ∧
      evaluate {} (fun _ => some "x") "=SUM(A1:A2)-A1" = .error (.notANumber "x") := by
  have hle : (⟨14, 1, 2, false⟩ : Limits) ≤ {} :=
    ⟨by decide, by decide, by decide, by decide⟩
  have heval : evaluate ⟨14, 1, 2, false⟩ (fun _ => some "x") "=SUM(A1:A2)-A1" =
      .error (.notANumber "x") := by
    decide +kernel
  have hlimit : ∀ err, evaluate ⟨14, 1, 2, false⟩ (fun _ => some "x") "=SUM(A1:A2)-A1" =
      .error err → ¬err.IsLimit := by
    intro err herr
    rw [heval] at herr
    cases herr
    exact id
  refine ⟨hle, hlimit, ?_⟩
  rw [evaluate_eq_of_le hle _ _ hlimit, heval]

end Formula

end Spreadsheet
