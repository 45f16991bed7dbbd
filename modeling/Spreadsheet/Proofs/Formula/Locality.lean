import Mathlib.Data.List.Basic
import Spreadsheet.Proofs.Formula.CellTexts
import Spreadsheet.Proofs.Formula.Trees
import Spreadsheet.Proofs.Outcomes

/-!
# Evaluation sees only the content of mentioned cells

A formula sees a cell as blank, as a number or as raw text, and only the cells that it mentions.
The main result is `evaluate_eq_of_content_eq`: two snapshots with the same content at every
mentioned address give a formula the same outcome, errors included.  It follows function by
function: each argument of a function, each reference and each operand of a joining operator reads
the content of addresses that the tree mentions.
-/

namespace Spreadsheet

namespace Formula

variable {limits : Limits} {cells cells' : Snapshot}

/-! ## Arguments of functions -/

/-- An argument covers the address. -/
def Argument.Covers (a : Address) : Argument → Prop
  | .cell b => a = b
  | .range r => a ∈ r.cells
  | _ => False

/-- The numbers that an argument gives depend only on the content of the cells that it covers. -/
lemma Argument.numbers_congr {arg : Argument}
    (h : ∀ a, arg.Covers a → cells.content a = cells'.content a) :
    arg.numbers cells = arg.numbers cells' := by
  cases arg with
  | number value => rfl
  | text content => rfl
  | cell a => simp only [Argument.numbers, h a rfl]
  | range r =>
    apply List.filterMap_congr
    intro a ha
    rw [h a ha]

/-- The text that an argument adds depends only on the content of the cells that it covers. -/
lemma Argument.joined_congr {arg : Argument}
    (h : ∀ a, arg.Covers a → cells.content a = cells'.content a) :
    arg.joined cells = arg.joined cells' := by
  cases arg with
  | number value => rfl
  | text content => rfl
  | cell a => simp only [Argument.joined, h a rfl]
  | range r =>
    apply List.foldl_ext
    intro s a ha
    rw [h a ha]

/-- Whether an argument counts as true depends only on the content of the cell that it covers. -/
lemma Argument.isTrue_congr {arg : Argument}
    (h : ∀ a, arg.Covers a → cells.content a = cells'.content a) :
    arg.isTrue cells = arg.isTrue cells' := by
  cases arg with
  | number value => rfl
  | text content => rfl
  | cell a => simp only [Argument.isTrue, h a rfl]
  | range r => rfl

/-- A function asks nothing of a snapshot but the content of the cells that its arguments cover. -/
lemma Function.apply_congr {args : List Argument} (f : Function)
    (h : ∀ arg ∈ args, ∀ a, arg.Covers a → cells.content a = cells'.content a) :
    f.apply cells args = f.apply cells' args := by
  have hnumbers : args.flatMap (Argument.numbers cells) = args.flatMap (Argument.numbers cells') :=
    List.flatMap_congr fun arg harg => Argument.numbers_congr (h arg harg)
  have hjoined : args.foldl (fun s arg => s ++ arg.joined cells) "" =
      args.foldl (fun s arg => s ++ arg.joined cells') "" := by
    apply List.foldl_ext
    intro s arg harg
    rw [Argument.joined_congr (h arg harg)]
  have htrue : args.head?.any (Argument.isTrue cells) =
      args.head?.any (Argument.isTrue cells') := by
    cases args with
    | nil => rfl
    | cons arg args => exact Argument.isTrue_congr (h arg List.mem_cons_self)
  unfold Function.apply
  simp only [hnumbers, hjoined, htrue]

/-! ## Expressions -/

/-- Whether an operand is a blank cell depends only on the content of this cell. -/
lemma isBlankCell_congr {e : Expr} (h : ∀ a, e.Mentions a → cells.content a = cells'.content a) :
    isBlankCell cells e = isBlankCell cells' e := by
  cases e with
  | cell a => simp only [isBlankCell, h a .cell]
  | _ => rfl

/-- The argument that a call makes of an expression, with `inner` in place of nested evaluations. -/
def argument (limits : Limits) (inner : Expr → Except Error Value) (e : Expr) :
    Except Error Argument :=
  match e with
  | .number value => .ok (.number value)
  | .text content => .ok (.text content)
  | .cell address => .ok (.cell address)
  | .range range => rangeArgument limits range
  | e => (inner e).map Argument.ofValue

/-- The argument that a call makes of an expression. -/
def evalArgument (limits : Limits) (cells : Snapshot) (e : Expr) : Except Error Argument :=
  argument limits (eval limits cells) e

/-- The argument that is made of an expression asks at most for the outcome of the expression. -/
lemma argument_congr {f g : Expr → Except Error Value} {e : Expr} (h : f e = g e) :
    argument limits f e = argument limits g e := by
  unfold argument
  split <;> first | rfl | rw [h]

/-- A call takes its arguments from left to right and stops at the first one that fails. -/
lemma evalArguments_cons (e : Expr) (es : List Expr) : evalArguments limits cells (e :: es) = do
    let arg ← evalArgument limits cells e
    return arg :: (← evalArguments limits cells es) := by
  cases e <;> simp only [evalArguments, evalArgument, argument, eval]

/-- An argument covers only what its expression mentions. -/
lemma mentions_of_covers {e : Expr} {arg : Argument} (h : evalArgument limits cells e = .ok arg)
    {a : Address} (ha : arg.Covers a) : e.Mentions a := by
  unfold evalArgument argument at h
  split at h
  case h_1 =>
    cases h
    exact absurd ha id
  case h_2 =>
    cases h
    exact absurd ha id
  case h_3 b =>
    cases h
    obtain rfl : a = b := ha
    exact .cell
  case h_4 r =>
    unfold rangeArgument at h
    split at h
    · cases h
      exact .range ha
    · cases h
  case h_5 =>
    obtain ⟨v, -, rfl⟩ := map_eq_ok_iff.mp h
    cases v <;> exact absurd ha id

/-- The arguments of a call cover only what the expressions of the arguments mention. -/
lemma mentions_of_covers_arguments {args : List Expr} {found : List Argument}
    (h : evalArguments limits cells args = .ok found) {arg : Argument} (harg : arg ∈ found)
    {a : Address} (ha : arg.Covers a) : ∃ e ∈ args, e.Mentions a := by
  induction args generalizing found with
  | nil =>
    rw [evalArguments] at h
    cases h
    simp at harg
  | cons e es ih =>
    rw [evalArguments_cons] at h
    obtain ⟨first, hfirst, h⟩ := bind_eq_ok_iff.mp h
    obtain ⟨others, hothers, h⟩ := bind_eq_ok_iff.mp h
    rw [← Except.ok.inj h] at harg
    rcases List.mem_cons.mp harg with rfl | harg
    · exact ⟨e, List.mem_cons_self, mentions_of_covers hfirst ha⟩
    · obtain ⟨e', he', hmentions⟩ := ih hothers harg
      exact ⟨e', List.mem_cons_of_mem e he', hmentions⟩

/-- A call applies its function to arguments that cover only what the call mentions. -/
lemma call_congr {args : List Expr} (f : Function)
    (hargs : evalArguments limits cells args = evalArguments limits cells' args)
    (h : ∀ e ∈ args, ∀ a, e.Mentions a → cells.content a = cells'.content a) :
    (evalArguments limits cells args).bind (applyFunction cells f) =
      (evalArguments limits cells' args).bind (applyFunction cells' f) := by
  rw [← hargs]
  cases hfound : evalArguments limits cells args with
  | error err => rfl
  | ok found =>
    have happly : f.apply cells found = f.apply cells' found := by
      apply Function.apply_congr
      intro arg harg a ha
      obtain ⟨e, he, hmentions⟩ := mentions_of_covers_arguments hfound harg ha
      exact h e he a hmentions
    change applyFunction cells f found = applyFunction cells' f found
    rw [applyFunction, applyFunction, happly]

mutual

/-- Walking down a chain asks only for the content of the addresses that the chain mentions. -/
lemma evalChain_congr : ∀ (e : Expr) (pending : List Pending),
    (∀ a, e.Mentions a → cells.content a = cells'.content a) →
    evalChain limits cells e pending = evalChain limits cells' e pending
  | .number _, _, _ => by simp only [evalChain]
  | .text _, _, _ => by simp only [evalChain]
  | .range _, _, _ => by simp only [evalChain]
  | .cell a, pending, h => by
    simp only [evalChain, h a .cell]
  | .unary op e, pending, h => by
    simp only [evalChain, evalChain_congr e [] fun a ha => h a (.operand ha)]
  | .binary op l r, pending, h => by
    have hr := evalChain_congr r [] fun a ha => h a (.right ha)
    have hblank : isBlankCell cells r = isBlankCell cells' r :=
      isBlankCell_congr fun a ha => h a (.right ha)
    simp only [evalChain, hr, hblank]
    exact evalChain_congr l _ fun a ha => h a (.left ha)
  | .call name args, pending, h => by
    have hmem : ∀ e ∈ args, ∀ a, e.Mentions a → cells.content a = cells'.content a :=
      fun e he a ha => h a (.argument he ha)
    have hargs := evalArguments_congr args hmem
    simp only [evalChain]
    cases Function.ofName? name with
    | none => rfl
    | some f =>
      have hcall := call_congr f hargs hmem
      simp only [bind, hcall]

/-- The arguments of a call ask only for the content of the addresses that they mention. -/
lemma evalArguments_congr : ∀ args : List Expr,
    (∀ e ∈ args, ∀ a, e.Mentions a → cells.content a = cells'.content a) →
    evalArguments limits cells args = evalArguments limits cells' args
  | [], _ => by simp only [evalArguments]
  | e :: es, h => by
    have hes := evalArguments_congr es fun e' he' => h e' (List.mem_cons_of_mem e he')
    have he := evalChain_congr e [] (h e List.mem_cons_self)
    rw [evalArguments_cons, evalArguments_cons, hes]
    have hfirst : evalArgument limits cells e = evalArgument limits cells' e := argument_congr he
    rw [hfirst]

end

/-! ## Formulas -/

/-- A formula that is short enough has the value of the tree that is read from it. -/
lemma evaluate_eq_eval {formula : String} {e : Expr}
    (he : Expr.ofText limits (body formula) = .ok e) (hlength : formula.length ≤ limits.maxLength) :
    evaluate limits cells formula = eval limits cells e := by
  rw [evaluate, if_pos hlength, he]
  rfl

/-- Snapshots with the same content at every address that a formula mentions give it the same
outcome. -/
lemma evaluate_congr {formula : String} (h : ∀ e, Expr.ofText limits (body formula) = .ok e →
    ∀ a, e.Mentions a → cells.content a = cells'.content a) :
    evaluate limits cells formula = evaluate limits cells' formula := by
  unfold evaluate
  cases he : Expr.ofText limits (body formula) with
  | error err => rfl
  | ok e =>
    have heval : eval limits cells e = eval limits cells' e := evalChain_congr e [] (h e he)
    split
    · exact heval
    · rfl

/-- The outcome of a formula depends on a snapshot only through the content of the addresses that
the formula mentions: whether the cell is blank, which number it holds, or which raw text.  So a
blank cell stands for a missing one, and one spelling of a number for another. -/
theorem evaluate_eq_of_content_eq (limits : Limits) (formula : String) :
    (∀ cells cells' : Snapshot,
      (∀ e, Expr.ofText limits (body formula) = .ok e →
        ∀ a, e.Mentions a → cells.content a = cells'.content a) →
      evaluate limits cells formula = evaluate limits cells' formula) ∧
    (∀ (cells : Snapshot) (a : Address) (s : String), Text.isBlank s = true →
      evaluate limits (Function.update cells a (some s)) formula =
        evaluate limits (Function.update cells a none) formula) ∧
    (∀ (cells : Snapshot) (a : Address) (s t : String) (n : Number),
      Number.ofCellText? s = some n → Number.ofCellText? t = some n →
      evaluate limits (Function.update cells a (some s)) formula =
        evaluate limits (Function.update cells a (some t)) formula) := by
  have hmain : ∀ cells cells' : Snapshot,
      (∀ e, Expr.ofText limits (body formula) = .ok e →
        ∀ a, e.Mentions a → cells.content a = cells'.content a) →
      evaluate limits cells formula = evaluate limits cells' formula :=
    fun cells cells' h => evaluate_congr h
  have hupdate : ∀ (cells : Snapshot) (a : Address) (x y : Option String),
      Content.ofCell x = Content.ofCell y →
      evaluate limits (Function.update cells a x) formula =
        evaluate limits (Function.update cells a y) formula := by
    intro cells a x y hxy
    refine hmain _ _ fun _ _ b _ => ?_
    unfold Snapshot.content
    by_cases hb : b = a
    · subst hb
      rw [Function.update_self, Function.update_self, hxy]
    · rw [Function.update_of_ne hb, Function.update_of_ne hb]
  refine ⟨hmain, fun cells a s hs => ?_, fun cells a s t n hs ht => ?_⟩
  · apply hupdate
    exact Content.ofCell_of_isBlank hs
  · apply hupdate
    rw [Content.ofCell_of_number hs, Content.ofCell_of_number ht]

/-- A missing cell against one of white space, two spellings of a number, and a cell with another
text that the formula does not mention. -/
theorem evaluate_eq_of_content_eq_spellings :
    let a1 : Address := ⟨⟨1, by decide, by decide⟩, ⟨1, by decide, by decide⟩⟩
    let b1 : Address := ⟨⟨1, by decide, by decide⟩, ⟨2, by decide, by decide⟩⟩
    let c1 : Address := ⟨⟨1, by decide, by decide⟩, ⟨3, by decide, by decide⟩⟩
    let cells : Snapshot := fun a =>
      if a = b1 then some "1.5" else if a = c1 then some "x" else none
    let cells' : Snapshot := fun a =>
      if a = a1 then some " " else if a = b1 then some " 15e-1" else
        if a = c1 then some "2" else none
    (cells a1 ≠ cells' a1 ∧ cells b1 ≠ cells' b1 ∧ cells.content c1 ≠ cells'.content c1) ∧
      (∀ e, Expr.ofText {} (body "=SUM(A1:B1)&A1&B1") = .ok e →
        ∀ a, e.Mentions a → cells.content a = cells'.content a) ∧
      evaluate {} cells "=SUM(A1:B1)&A1&B1" = .ok (.text "1.51.5") ∧
      evaluate {} cells' "=SUM(A1:B1)&A1&B1" = .ok (.text "1.51.5") ∧
      evaluate {} (Function.update cells a1 (some "\t")) "=SUM(A1:B1)&A1&B1" =
        evaluate {} (Function.update cells a1 none) "=SUM(A1:B1)&A1&B1" ∧
      evaluate {} (Function.update cells b1 (some "1.5")) "=SUM(A1:B1)&A1&B1" =
        evaluate {} (Function.update cells b1 (some "+1.50")) "=SUM(A1:B1)&A1&B1" := by
  intro a1 b1 c1 cells cells'
  obtain ⟨hmain, hblank, hnumber⟩ := evaluate_eq_of_content_eq {} "=SUM(A1:B1)&A1&B1"
  -- The formula mentions A1 and B1 alone, which have the same content in both snapshots.
  have htree : Expr.ofText {} (body "=SUM(A1:B1)&A1&B1") = .ok (.binary .join (.binary .join
      (.call "SUM" [.range ⟨a1, b1⟩]) (.cell a1)) (.cell b1)) := by
    decide +kernel
  have ha1 : cells.content a1 = cells'.content a1 := by decide +kernel
  have hb1 : cells.content b1 = cells'.content b1 := by decide +kernel
  have hrange : ∀ a ∈ (⟨a1, b1⟩ : Range).cells, cells.content a = cells'.content a := by
    decide +kernel
  have hcontent : ∀ e, Expr.ofText {} (body "=SUM(A1:B1)&A1&B1") = .ok e →
      ∀ a, e.Mentions a → cells.content a = cells'.content a := by
    intro e he a ha
    obtain rfl := Except.ok.inj (htree.symm.trans he)
    cases ha with
    | left ha =>
      cases ha with
      | left ha =>
        cases ha with
        | argument hmem ha =>
          obtain rfl := List.mem_singleton.mp hmem
          cases ha with
          | range ha => exact hrange a ha
      | right ha =>
        cases ha
        exact ha1
    | right ha =>
      cases ha
      exact hb1
  have heval : evaluate {} cells "=SUM(A1:B1)&A1&B1" = .ok (.text "1.51.5") := by decide +kernel
  have hn : Number.ofCellText? "1.5" = some (.ofDecimal false ⟨15, -1⟩) := by decide +kernel
  have hn' : Number.ofCellText? "+1.50" = some (.ofDecimal false ⟨15, -1⟩) := by decide +kernel
  exact ⟨by decide +kernel, hcontent, heval, (hmain cells cells' hcontent).symm.trans heval,
    hblank cells a1 "\t" (by decide +kernel), hnumber cells b1 "1.5" "+1.50" _ hn hn'⟩

end Formula

end Spreadsheet
