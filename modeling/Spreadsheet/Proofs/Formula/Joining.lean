import Mathlib.Data.List.Induction
import Spreadsheet.Proofs.Formula.Recursion

/-!
# Joining texts

There are three ways to put texts together: the function `CONCATENATE`, the operator `&` and, as
soon as one of its operands is text, the operator `+`.  The function takes its arguments by a
reading of its own, yet it joins the same texts as the operator `&` does, and fails with the same
error (`eval_concatenate`).  The operator `+` works on values, and the value of a blank cell is
zero: it joins what `&` joins, except that a reference to a blank cell adds `0` instead of nothing
(`eval_add_of_text`).
-/

namespace Spreadsheet

namespace Formula

variable {limits : Limits} {cells : Snapshot}

/-- The empty text with expressions joined to it one after the other, as in `""&A1&"x"`. -/
def Expr.joinAll (es : List Expr) : Expr :=
  es.foldl (.binary .join) (.text "")

/-- The expression is a reference to a cell that is missing or blank. -/
def Expr.RefersToBlank (cells : Snapshot) (e : Expr) : Prop :=
  ∃ a, e = .cell a ∧ (cells a).all Text.isBlank = true

/-! ## Texts of operands -/

/-- A cell that is not blank joins by its value. -/
lemma joined_content_of_ne_blank {content : Content} (h : content ≠ .blank) :
    content.joined = content.value.display := by
  cases content with
  | blank => exact absurd rfl h
  | _ => rfl

/-- A reference to a blank cell adds nothing where it is joined, whatever its outcome as an operand
is. -/
lemma joinedText_of_refersToBlank {e : Expr} (h : e.RefersToBlank cells)
    (outcome : Except Error Value) : joinedText cells e outcome = .ok "" := by
  obtain ⟨a, rfl, hblank⟩ := h
  rw [joinedText, if_pos hblank]

/-- Anything but a reference to a blank cell is joined by the text that shows its outcome. -/
lemma joinedText_of_not_refersToBlank {e : Expr} (h : ¬e.RefersToBlank cells)
    (outcome : Except Error Value) : joinedText cells e outcome = outcome.map Value.display := by
  unfold joinedText
  split
  case h_1 a =>
    rw [if_neg fun hblank => h ⟨a, rfl, hblank⟩]
  case h_2 => rfl

/-- A reference to a blank cell has the value zero. -/
lemma eval_of_refersToBlank {e : Expr} (h : e.RefersToBlank cells) :
    eval limits cells e = .ok (.number .zero) := by
  obtain ⟨a, rfl, hblank⟩ := h
  rw [eval_cell, value_of_isBlank hblank]

lemma display_zero : (Value.number (.zero : Number)).display = "0" := by
  decide +kernel

/-! ## The function and the operator -/

/-- What an expression adds as an argument is what it adds as an operand. -/
lemma joinedText_eq_evalArgument {e : Expr} (h : ∀ r, e ≠ .range r) :
    joinedText cells e (eval limits cells e) =
      (evalArgument limits cells e).map (Argument.joined cells) := by
  have hvalue : ∀ outcome : Except Error Value, outcome.map Value.display =
      (outcome.map Argument.ofValue).map (Argument.joined cells) := by
    rintro (err | v)
    · rfl
    · cases v <;> rfl
  cases e with
  | range r => exact absurd rfl (h r)
  | cell a =>
    by_cases hblank : (cells a).all Text.isBlank = true
    · rw [joinedText_of_refersToBlank ⟨a, rfl, hblank⟩]
      exact congrArg Except.ok (joined_of_isBlank hblank).symm
    · have hcontent := mt content_eq_blank_iff.mp hblank
      rw [joinedText, if_neg hblank, eval_cell]
      exact congrArg Except.ok (joined_content_of_ne_blank hcontent).symm
  | number n => rw [eval_number]; rfl
  | text content => rw [eval_text]; rfl
  | unary op e => exact hvalue _
  | binary op l r => exact hvalue _
  | call name args => exact hvalue _

/-- Joining one more expression puts one more operator at the end of the chain. -/
lemma Expr.joinAll_append (es : List Expr) (e : Expr) :
    joinAll (es ++ [e]) = .binary .join (joinAll es) e := by
  simp only [joinAll, List.foldl_append, List.foldl_cons, List.foldl_nil]

/-- A chain of joined texts is no reference, so that its own text always counts. -/
lemma Expr.not_refersToBlank_joinAll (es : List Expr) : ¬(joinAll es).RefersToBlank cells := by
  rintro ⟨a, ha, -⟩
  induction es using List.reverseRecOn with
  | nil => cases ha
  | append_singleton es e _ =>
    rw [joinAll_append] at ha
    cases ha

/-- The chain of joins has the text of all arguments in a row, or the error of the first one that
fails. -/
lemma eval_joinAll {args : List Expr} (h : ∀ e ∈ args, ∀ r, e ≠ .range r) :
    eval limits cells (.joinAll args) = (evalArguments limits cells args).map fun found =>
      .text (found.foldl (fun s arg => s ++ arg.joined cells) "") := by
  induction args using List.reverseRecOn with
  | nil =>
    rw [evalArguments]
    exact eval_text ""
  | append_singleton es e ih =>
    have hes : ∀ x ∈ es, ∀ r, x ≠ .range r := fun x hx => h x (List.mem_append_left [e] hx)
    have he : ∀ r, e ≠ .range r := h e (List.mem_append_right es (List.mem_singleton_self e))
    have hsplit : evalArguments limits cells (es ++ [e]) = (do
        let found ← evalArguments limits cells es
        let arg ← evalArgument limits cells e
        return found ++ [arg]) := by
      simp only [evalArguments_eq_mapM, List.mapM_append, List.mapM_cons, List.mapM_nil,
        bind_assoc, pure_bind]
    rw [Expr.joinAll_append, eval_join,
      joinedText_of_not_refersToBlank (Expr.not_refersToBlank_joinAll es),
      joinedText_eq_evalArgument he, ih hes, hsplit]
    rcases evalArguments limits cells es with err | found
    · rfl
    · rcases evalArgument limits cells e with err | arg
      · rfl
      · change Except.ok (Value.text _) = Except.ok (Value.text _)
        rw [List.foldl_append]
        rfl

/-- A call of `CONCATENATE` with arguments that are no ranges has the outcome of joining the
arguments to the empty text by `&`: the same text, or the same error. -/
theorem eval_concatenate (limits : Limits) (cells : Snapshot) (args : List Expr)
    (h : ∀ e ∈ args, ∀ r, e ≠ .range r) :
    eval limits cells (.call "CONCATENATE" args) = eval limits cells (.joinAll args) := by
  have hname : Function.ofName? "CONCATENATE" = some .concatenate := by decide
  rw [eval_call, hname, eval_joinAll h]
  rcases evalArguments limits cells args with err | found <;> rfl

/-- A blank cell, a number in an unusual spelling, a negative zero, a text between spaces, a chain
of operators and a call. -/
theorem eval_concatenate_mixed :
    let a1 : Address := ⟨⟨1, by decide, by decide⟩, ⟨1, by decide, by decide⟩⟩
    let a2 : Address := ⟨⟨2, by decide, by decide⟩, ⟨1, by decide, by decide⟩⟩
    let cells : Snapshot := fun a => if a = a2 then some " 1.50 " else none
    let args : List Expr := [.cell a1, .cell a2, .unary .minus (.number .zero), .text " x ",
      .binary .add (.cell a1) (.cell a2), .call "COUNT" [.cell a2]]
    (∀ e ∈ args, ∀ r, e ≠ .range r) ∧
      eval {} cells (.call "CONCATENATE" args) = .ok (.text "1.50 x 1.51") ∧
      eval {} cells (.joinAll args) = .ok (.text "1.50 x 1.51") := by
  intro a1 a2 cells args
  have hargs : ∀ e ∈ args, ∀ r, e ≠ .range r := by simp [args]
  have hcall : eval {} cells (.call "CONCATENATE" args) = .ok (.text "1.50 x 1.51") := by
    decide +kernel
  exact ⟨hargs, hcall, (eval_concatenate {} cells args hargs).symm.trans hcall⟩

/-! ## The two operators -/

section Addition

variable {l r : Expr} {x y : Value} {t : String}

/-- As soon as one operand is text, `+` puts the texts that show the operands side by side. -/
lemma applyBinary_add_of_text (h : ∃ t, x = .text t ∨ y = .text t) :
    applyBinary .add x y = .ok (.text (x.display ++ y.display)) := by
  obtain ⟨t, rfl | rfl⟩ := h
  · rfl
  · cases x <;> rfl

/-- With a text among its operands, `+` joins the texts that show their values. -/
lemma eval_add_eq (hl : eval limits cells l = .ok x) (hr : eval limits cells r = .ok y)
    (htext : ∃ t, x = .text t ∨ y = .text t) :
    eval limits cells (.binary .add l r) = .ok (.text (x.display ++ y.display)) := by
  rw [eval_binary_of_ne_join (by decide), hl, hr]
  exact applyBinary_add_of_text htext

/-- An expression with a text as its value refers to no blank cell, since such a reference has the
value zero. -/
lemma not_refersToBlank_of_text (h : eval limits cells l = .ok (.text t)) :
    ¬l.RefersToBlank cells := by
  intro hblank
  rw [eval_of_refersToBlank hblank] at h
  cases h

/-- Of a blank cell and a value with text, the value is the text. -/
lemma exists_text_of_refersToBlank (hl : eval limits cells l = .ok x)
    (hblank : l.RefersToBlank cells) (htext : ∃ t, x = .text t ∨ y = .text t) :
    x = .number .zero ∧ ∃ t, y = .text t := by
  have hx : Value.number .zero = x := Except.ok.inj ((eval_of_refersToBlank hblank).symm.trans hl)
  refine ⟨hx.symm, ?_⟩
  obtain ⟨t, ht | ht⟩ := htext
  · rw [ht] at hx
    cases hx
  · exact ⟨t, ht⟩

/-- In front of a text a blank cell adds nothing to `&`, and `0` to `+`. -/
lemma eval_of_blank_left (hblank : l.RefersToBlank cells)
    (hr : eval limits cells r = .ok (.text t)) :
    eval limits cells (.binary .add l r) = .ok (.text ("0" ++ t)) ∧
      eval limits cells (.binary .join l r) = .ok (.text t) := by
  constructor
  · rw [eval_add_eq (eval_of_refersToBlank hblank) hr ⟨t, .inr rfl⟩, display_zero]
    rfl
  · rw [eval_join, joinedText_of_refersToBlank hblank, hr,
      joinedText_of_not_refersToBlank (not_refersToBlank_of_text hr)]
    exact congrArg (fun s => Except.ok (Value.text s)) String.empty_append

/-- Behind a text a blank cell adds nothing to `&`, and `0` to `+`. -/
lemma eval_of_blank_right (hl : eval limits cells l = .ok (.text t))
    (hblank : r.RefersToBlank cells) :
    eval limits cells (.binary .add l r) = .ok (.text (t ++ "0")) ∧
      eval limits cells (.binary .join l r) = .ok (.text t) := by
  constructor
  · rw [eval_add_eq hl (eval_of_refersToBlank hblank) ⟨t, .inl rfl⟩, display_zero]
    rfl
  · rw [eval_join, joinedText_of_refersToBlank hblank, hl,
      joinedText_of_not_refersToBlank (not_refersToBlank_of_text hl)]
    exact congrArg (fun s => Except.ok (Value.text s)) String.append_empty

/-- Between operands that refer to no blank cells, `&` joins the texts that show their values. -/
lemma eval_join_of_not_blank (hl : eval limits cells l = .ok x) (hr : eval limits cells r = .ok y)
    (hblank : ¬l.RefersToBlank cells) (hblank' : ¬r.RefersToBlank cells) :
    eval limits cells (.binary .join l r) = .ok (.text (x.display ++ y.display)) := by
  rw [eval_join, joinedText_of_not_refersToBlank hblank, joinedText_of_not_refersToBlank hblank',
    hl, hr]
  rfl

/-- Outcomes are told apart by the length of their texts. -/
lemma ne_of_length_lt {outcome outcome' : Except Error Value} {u : String}
    (h : outcome = .ok (.text t)) (h' : outcome' = .ok (.text u)) (hlt : t.length < u.length) :
    outcome ≠ outcome' := by
  rintro rfl
  cases h.symm.trans h'
  exact Nat.lt_irrefl _ hlt

end Addition

/-- Where one of two values is text, `+` joins the texts that show them.  This is what `&` does with
the same operands exactly if none of them is a reference to a blank cell: such a reference adds
nothing to `&`, and `0` to `+`. -/
theorem eval_add_of_text (limits : Limits) (cells : Snapshot) (l r : Expr) (x y : Value)
    (hl : eval limits cells l = .ok x) (hr : eval limits cells r = .ok y)
    (htext : ∃ t, x = .text t ∨ y = .text t) :
    eval limits cells (.binary .add l r) = .ok (.text (x.display ++ y.display)) ∧
      (eval limits cells (.binary .add l r) = eval limits cells (.binary .join l r) ↔
        ¬l.RefersToBlank cells ∧ ¬r.RefersToBlank cells) ∧
      (l.RefersToBlank cells → ∃ t, y = .text t ∧
        eval limits cells (.binary .add l r) = .ok (.text ("0" ++ t)) ∧
        eval limits cells (.binary .join l r) = .ok (.text t)) ∧
      (r.RefersToBlank cells → ∃ t, x = .text t ∧
        eval limits cells (.binary .add l r) = .ok (.text (t ++ "0")) ∧
        eval limits cells (.binary .join l r) = .ok (.text t)) := by
  have hleft : l.RefersToBlank cells → ∃ t, y = .text t ∧
      eval limits cells (.binary .add l r) = .ok (.text ("0" ++ t)) ∧
      eval limits cells (.binary .join l r) = .ok (.text t) := by
    intro hblank
    obtain ⟨-, t, rfl⟩ := exists_text_of_refersToBlank hl hblank htext
    exact ⟨t, rfl, eval_of_blank_left hblank hr⟩
  have hright : r.RefersToBlank cells → ∃ t, x = .text t ∧
      eval limits cells (.binary .add l r) = .ok (.text (t ++ "0")) ∧
      eval limits cells (.binary .join l r) = .ok (.text t) := by
    intro hblank
    obtain ⟨-, t, rfl⟩ := exists_text_of_refersToBlank hr hblank (htext.imp fun _ => Or.symm)
    exact ⟨t, rfl, eval_of_blank_right hl hblank⟩
  refine ⟨eval_add_eq hl hr htext, ⟨fun heq => ⟨fun hblank => ?_, fun hblank => ?_⟩, ?_⟩, hleft,
    hright⟩
  · obtain ⟨t, -, hadd, hjoin⟩ := hleft hblank
    have hlonger : t.length < ("0" ++ t).length := by
      rw [String.length_append]
      exact Nat.lt_add_of_pos_left (by decide)
    exact ne_of_length_lt hjoin hadd hlonger heq.symm
  · obtain ⟨t, -, hadd, hjoin⟩ := hright hblank
    have hlonger : t.length < (t ++ "0").length := by
      rw [String.length_append]
      exact Nat.lt_add_of_pos_right (by decide)
    exact ne_of_length_lt hjoin hadd hlonger heq.symm
  · rintro ⟨hblank, hblank'⟩
    rw [eval_add_eq hl hr htext, eval_join_of_not_blank hl hr hblank hblank']

/-- A computed zero is no blank cell, and joins alike. -/
theorem eval_add_of_text_computed :
    let a1 : Address := ⟨⟨1, by decide, by decide⟩, ⟨1, by decide, by decide⟩⟩
    let zero : Expr := .unary .plus (.cell a1)
    eval {} (fun _ => some " ") zero = .ok (.number .zero) ∧
      eval {} (fun _ => some " ") (.text "x") = .ok (.text "x") ∧
      ¬zero.RefersToBlank (fun _ => some " ") ∧
      eval {} (fun _ => some " ") (.binary .add zero (.text "x")) = .ok (.text "0x") ∧
      eval {} (fun _ => some " ") (.binary .join zero (.text "x")) = .ok (.text "0x") := by
  intro a1 zero
  have hzero : eval {} (fun _ => some " ") zero = .ok (.number .zero) := by decide +kernel
  have htext : eval {} (fun _ => some " ") (.text "x") = .ok (.text "x") := eval_text "x"
  have hblank : ¬zero.RefersToBlank (fun _ => some " ") := by
    rintro ⟨a, ha, -⟩
    exact Expr.noConfusion ha
  obtain ⟨hadd, hiff, -⟩ := eval_add_of_text {} _ zero (.text "x") _ _ hzero htext
    ⟨"x", .inr rfl⟩
  have hjoin := hiff.mpr ⟨hblank, not_refersToBlank_of_text htext⟩
  rw [display_zero] at hadd
  exact ⟨hzero, htext, hblank, hadd, hjoin.symm.trans hadd⟩

/-- The two operators do not always agree where an operand is text: a missing cell and a text. -/
theorem not_eval_add_eq_eval_join : ¬∀ (limits : Limits) (cells : Snapshot) (l r : Expr)
    (x y : Value), eval limits cells l = .ok x → eval limits cells r = .ok y →
      (∃ t, x = .text t ∨ y = .text t) →
        eval limits cells (.binary .add l r) = eval limits cells (.binary .join l r) := by
  intro h
  let a1 : Address := ⟨⟨1, by decide, by decide⟩, ⟨1, by decide, by decide⟩⟩
  have heq := h {} (fun _ => none) (.cell a1) (.text "x") _ _ (eval_cell a1) (eval_text "x")
    ⟨"x", .inr rfl⟩
  have hadd : eval {} (fun _ => none) (.binary .add (.cell a1) (.text "x")) =
      .ok (.text "0x") := by decide +kernel
  have hjoin : eval {} (fun _ => none) (.binary .join (.cell a1) (.text "x")) =
      .ok (.text "x") := by decide +kernel
  rw [hadd, hjoin] at heq
  exact absurd heq (by decide)

end Formula

end Spreadsheet
