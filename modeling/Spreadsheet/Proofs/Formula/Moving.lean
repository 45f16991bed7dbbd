import Spreadsheet.Proofs.Formula.Offset
import Spreadsheet.Proofs.Formula.Recursion
import Spreadsheet.Proofs.Grid.Translation

/-!
# Evaluation commutes with moving everything

When the references and ranges of an expression move together with the texts of the cells that they
mention, its value stays, and a failed evaluation fails as before, with the range that the error
names moved as well.  The main result is `eval_offset`, for expressions without a call of `IF`,
which turns references into text.

Ranges move cell by cell (`Range.forall₂_cells_of_offset?`), so that every argument of a function
shows the same contents in the same order after the move (`Argument.Alike`), and functions other
than `IF` read no more of their arguments.  The rest is an induction on the tree that compares the
two outcomes step by step.
-/

namespace Spreadsheet

namespace Formula

/-! ## Moved outcomes -/

/-- The error with the range that it names moved. -/
def Error.offset? (shift : Shift) : Error → Option Error
  | .rangeAsValue r => do return .rangeAsValue (← shift.range? r)
  | .rangeTooLarge r limit => do return .rangeTooLarge (← shift.range? r) limit
  | err => some err

variable {shift : Shift} {limits : Limits} {cells cells' : Snapshot}

/-- The first outcome before a move and the second one after it: related results, or the same error
with its range moved. -/
def MovesTo {α β : Type} (shift : Shift) (r : α → β → Prop) :
    Except Error α → Except Error β → Prop :=
  Related (fun err err' => err.offset? shift = some err') r

/-! ## Operators -/

/-- Taking a value as a number names no range, and so does not change in a move. -/
lemma toNumber_movesTo (v : Value) : MovesTo shift Eq (toNumber v) (toNumber v) := by
  unfold toNumber
  split
  · exact .ok rfl
  · split
    · exact .ok rfl
    · exact .error rfl

/-- The check for overflow names no range, and so does not change in a move. -/
lemma requireFinite_movesTo (v : Value) :
    MovesTo shift Eq (requireFinite v) (requireFinite v) := by
  unfold requireFinite
  split
  · split
    · exact .ok rfl
    · exact .error rfl
  · exact .ok rfl

/-- A computation on the numbers of two operands moves as the computation itself does, since taking
their numbers reads no cell. -/
lemma numbers_movesTo (left right : Value) {f : Number → Number → Except Error Value}
    (hf : ∀ x y, MovesTo shift Eq (f x y) (f x y)) :
    MovesTo shift Eq (toNumber left >>= fun x => toNumber right >>= f x)
      (toNumber left >>= fun x => toNumber right >>= f x) := by
  refine (toNumber_movesTo left).bind ?_
  rintro x _ rfl
  refine (toNumber_movesTo right).bind ?_
  rintro y _ rfl
  exact hf x y

/-- What an operator makes of two values does not change in a move. -/
lemma combine_movesTo (op : BinaryOp) (left right : Value) :
    MovesTo shift Eq (combine op left right) (combine op left right) := by
  cases op with
  | compare | join => exact .ok rfl
  | add =>
    simp only [combine]
    split <;> exact .ok rfl
  | subtract | multiply => exact numbers_movesTo left right fun _ _ => .ok rfl
  | divide =>
    refine numbers_movesTo left right fun x y => ?_
    split
    · exact .error rfl
    · exact .ok rfl

/-- An operator gives the same for the same values, before and after a move. -/
lemma applyBinary_movesTo (op : BinaryOp) (left right : Value) :
    MovesTo shift Eq (applyBinary op left right) (applyBinary op left right) := by
  refine (combine_movesTo op left right).bind ?_
  rintro v _ rfl
  exact requireFinite_movesTo v

/-- A sign gives the same for the same value, before and after a move. -/
lemma applyUnary_movesTo (op : UnaryOp) (v : Value) :
    MovesTo shift Eq (applyUnary op v) (applyUnary op v) := by
  refine (toNumber_movesTo v).bind ?_
  rintro n _ rfl
  cases op <;> exact .ok rfl

/-- Operands move when they are blank cells alike and their outcomes move. -/
structure Operand.MovesTo (shift : Shift) (x y : Operand) : Prop where
  isBlankCell_eq : x.isBlankCell = y.isBlankCell
  outcome : Formula.MovesTo shift Eq (x.outcome ()) (y.outcome ())

/-- Operands that move are joined by the same text. -/
lemma Operand.MovesTo.joined {x y : Operand} (h : x.MovesTo shift y) :
    Formula.MovesTo shift Eq x.joined y.joined := by
  unfold Operand.joined
  rw [h.isBlankCell_eq]
  split
  · exact .ok rfl
  · refine h.outcome.bind ?_
    rintro v _ rfl
    exact .ok rfl

/-- An operator between operands that move gives an outcome that moves. -/
lemma chain_movesTo (op : BinaryOp) {x x' y y' : Operand} (hx : x.MovesTo shift x')
    (hy : y.MovesTo shift y') :
    MovesTo shift Eq (chain x [⟨op, y⟩]) (chain x' [⟨op, y'⟩]) := by
  rw [chain_singleton, chain_singleton]
  cases op with
  | join =>
    refine hx.joined.bind ?_
    rintro v _ rfl
    refine hy.joined.bind ?_
    rintro w _ rfl
    exact applyBinary_movesTo _ v w
  | _ =>
    refine hx.outcome.bind ?_
    rintro v _ rfl
    refine hy.outcome.bind ?_
    rintro w _ rfl
    exact applyBinary_movesTo _ v w

/-! ## Arguments of functions -/

/-- Two arguments, each with its own cells, show the same to a function that asks for no address. -/
inductive Argument.Alike (cells cells' : Snapshot) : Argument → Argument → Prop
  | number (value : Number) : Alike cells cells' (.number value) (.number value)
  | text (content : String) : Alike cells cells' (.text content) (.text content)
  | cell {a b : Address} (content_eq : cells.content a = cells'.content b) :
    Alike cells cells' (.cell a) (.cell b)
  | range {r r' : Range} (contents_eq : r.cells.map cells.content = r'.cells.map cells'.content) :
    Alike cells cells' (.range r) (.range r')

/-- Arguments that show the same give the same numbers. -/
lemma Argument.Alike.numbers_eq {arg arg' : Argument} (h : arg.Alike cells cells' arg') :
    arg.numbers cells = arg'.numbers cells' := by
  cases h with
  | number | text => rfl
  | cell content_eq => simp only [numbers, content_eq]
  | @range r r' contents_eq =>
    have hnumbers := congrArg (List.filterMap Content.number?) contents_eq
    rwa [List.filterMap_map, List.filterMap_map] at hnumbers

/-- Arguments that show the same add the same text. -/
lemma Argument.Alike.joined_eq {arg arg' : Argument} (h : arg.Alike cells cells' arg') :
    arg.joined cells = arg'.joined cells' := by
  cases h with
  | number | text => rfl
  | cell content_eq => simp only [joined, content_eq]
  | @range r r' contents_eq =>
    have hjoined := congrArg (List.foldl (fun s content => s ++ content.joined) "") contents_eq
    rwa [List.foldl_map, List.foldl_map] at hjoined

/-- Arguments that show the same one by one give the same numbers in the same order. -/
lemma Argument.flatMap_numbers_eq {args args' : List Argument}
    (h : List.Forall₂ (Argument.Alike cells cells') args args') :
    args.flatMap (Argument.numbers cells) = args'.flatMap (Argument.numbers cells') := by
  induction h with
  | nil => rfl
  | cons harg _ ih => rw [List.flatMap_cons, List.flatMap_cons, harg.numbers_eq, ih]

/-- Arguments that show the same one by one are joined to the same text. -/
lemma Argument.foldl_joined_eq {args args' : List Argument}
    (h : List.Forall₂ (Argument.Alike cells cells') args args') (s : String) :
    args.foldl (fun s arg => s ++ arg.joined cells) s =
      args'.foldl (fun s arg => s ++ arg.joined cells') s := by
  induction h generalizing s with
  | nil => rfl
  | cons harg _ ih => rw [List.foldl_cons, List.foldl_cons, harg.joined_eq, ih]

/-- A function other than `IF` makes the same of arguments that show the same. -/
lemma Function.apply_eq_of_alike {f : Function} (hf : f ≠ .choose) {args args' : List Argument}
    (h : List.Forall₂ (Argument.Alike cells cells') args args') :
    f.apply cells args = f.apply cells' args' := by
  have hnumbers := Argument.flatMap_numbers_eq h
  have hjoined := Argument.foldl_joined_eq h ""
  cases f with
  | choose => exact absurd rfl hf
  | _ => simp only [Function.apply, hnumbers, hjoined]

/-- Only `IF` names the function that gives its arguments as written. -/
lemma Function.ne_choose_of_ofName? {name : String} {f : Function}
    (h : Function.ofName? name = some f) (hname : name ≠ "IF") : f ≠ .choose := by
  rintro rfl
  have heq : (Function.choose.name == name) = true :=
    List.find?_some (p := fun f : Function => f.name == name) h
  exact hname (beq_iff_eq.mp heq).symm

/-! ## Expressions -/

/-- The tree calls no `IF`, and the cells that it mentions keep their content along the move. -/
structure Expr.MovesAlong (shift : Shift) (cells cells' : Snapshot) (e : Expr) : Prop where
  not_mem_calls : "IF" ∉ e.calls
  content_eq : ∀ a b, e.Mentions a → shift.address? a = some b → cells.content a = cells'.content b

namespace Expr.MovesAlong

variable {e l r : Expr}

/-- The operand of a sign moves along with the tree. -/
lemma operand {op : UnaryOp} (h : (Expr.unary op e).MovesAlong shift cells cells') :
    e.MovesAlong shift cells cells' :=
  ⟨h.not_mem_calls, fun a b ha => h.content_eq a b (.operand ha)⟩

/-- The left operand of an operator moves along with the tree. -/
lemma left {op : BinaryOp} (h : (Expr.binary op l r).MovesAlong shift cells cells') :
    l.MovesAlong shift cells cells' :=
  ⟨fun hif => h.not_mem_calls (List.mem_append_left _ hif),
    fun a b ha => h.content_eq a b (.left ha)⟩

/-- The right operand of an operator moves along with the tree. -/
lemma right {op : BinaryOp} (h : (Expr.binary op l r).MovesAlong shift cells cells') :
    r.MovesAlong shift cells cells' :=
  ⟨fun hif => h.not_mem_calls (List.mem_append_right _ hif),
    fun a b ha => h.content_eq a b (.right ha)⟩

/-- An argument of a call moves along with the tree. -/
lemma argument {name : String} {args : List Expr}
    (h : (Expr.call name args).MovesAlong shift cells cells') (he : e ∈ args) :
    e.MovesAlong shift cells cells' :=
  ⟨fun hif => h.not_mem_calls (List.mem_cons_of_mem _ (calls_subset_callsAll he hif)),
    fun a b ha => h.content_eq a b (.argument he ha)⟩

end Expr.MovesAlong

/-- A moved reference is one to a blank cell exactly when the reference was. -/
lemma isBlankCell_of_offset? {e e' : Expr} (he : e.offset? shift = some e')
    (h : e.MovesAlong shift cells cells') : isBlankCell cells e = isBlankCell cells' e' := by
  cases e with
  | cell a =>
    obtain ⟨b, hb, rfl⟩ := Expr.offset?_cell_iff.mp he
    simp only [isBlankCell, h.content_eq a b .cell hb]
  | number | text =>
    cases he
    rfl
  | range r =>
    obtain ⟨_, -, rfl⟩ := Expr.offset?_range_iff.mp he
    rfl
  | unary op e =>
    obtain ⟨_, -, rfl⟩ := Expr.offset?_unary_iff.mp he
    rfl
  | binary op l r =>
    obtain ⟨_, -, _, -, rfl⟩ := Expr.offset?_binary_iff.mp he
    rfl
  | call name args =>
    obtain ⟨_, -, rfl⟩ := Expr.offset?_call_iff.mp he
    rfl

/-- A moved range shows the same contents in the same order, and is within the limit as before. -/
lemma rangeArgument_movesTo {r r' : Range} (hr : shift.range? r = some r')
    (h : (Expr.range r).MovesAlong shift cells cells') :
    MovesTo shift (Argument.Alike cells cells') (rangeArgument limits r)
      (rangeArgument limits r') := by
  obtain ⟨hfirst, hlast⟩ := Shift.range?_eq_some_iff.mp hr
  have hmoved := Range.forall₂_cells_of_offset? hfirst hlast
  have hcontent :
      List.Forall₂ (fun a b => cells.content a = cells'.content b) r.cells r'.cells := by
    refine ((List.forall₂_and_left _ _).mpr ⟨fun a ha => ha, hmoved⟩).imp ?_
    rintro a b ⟨ha, hb⟩
    exact h.content_eq a b (.range ha) hb
  unfold rangeArgument
  rw [Range.cellCount_of_offset? hfirst hlast]
  split
  · refine .ok (.range ?_)
    rw [← List.forall₂_eq_eq_eq, List.forall₂_map_left_iff, List.forall₂_map_right_iff]
    exact hcontent
  · refine .error ?_
    simp only [Error.offset?, hr, Option.bind_eq_bind, Option.bind_some, Option.pure_def]

/-- An argument that is evaluated moves with its value. -/
lemma ofValue_movesTo {x y : Except Error Value} (h : MovesTo shift Eq x y) :
    MovesTo shift (Argument.Alike cells cells') (x.map Argument.ofValue)
      (y.map Argument.ofValue) := by
  refine h.map ?_
  rintro v _ rfl
  cases v with
  | number n => exact .number n
  | text content => exact .text content

mutual

/-- The outcome of a tree moves along with the tree: the same value, or the same error with its
range moved. -/
lemma eval_movesTo : ∀ {e e' : Expr}, e.offset? shift = some e' →
    e.MovesAlong shift cells cells' →
    MovesTo shift Eq (eval limits cells e) (eval limits cells' e')
  | .number n, _, he, _ => by
    cases he
    rw [eval_number, eval_number]
    exact .ok rfl
  | .text content, _, he, _ => by
    cases he
    rw [eval_text, eval_text]
    exact .ok rfl
  | .cell a, _, he, h => by
    obtain ⟨b, hb, rfl⟩ := Expr.offset?_cell_iff.mp he
    rw [eval_cell, eval_cell, h.content_eq a b .cell hb]
    exact .ok rfl
  | .range r, _, he, _ => by
    obtain ⟨r', hr, rfl⟩ := Expr.offset?_range_iff.mp he
    rw [eval_range, eval_range]
    refine .error ?_
    simp only [Error.offset?, hr, Option.bind_eq_bind, Option.bind_some, Option.pure_def]
  | .unary op x, _, he, h => by
    obtain ⟨x', hx, rfl⟩ := Expr.offset?_unary_iff.mp he
    rw [eval_unary, eval_unary]
    refine (eval_movesTo hx h.operand).bind ?_
    rintro v _ rfl
    exact applyUnary_movesTo op v
  | .binary op l r, _, he, h => by
    obtain ⟨l', hl, r', hr, rfl⟩ := Expr.offset?_binary_iff.mp he
    rw [eval_binary, eval_binary]
    exact chain_movesTo op ⟨isBlankCell_of_offset? hl h.left, eval_movesTo hl h.left⟩
      ⟨isBlankCell_of_offset? hr h.right, eval_movesTo hr h.right⟩
  | .call name args, _, he, h => by
    obtain ⟨args', hargs, rfl⟩ := Expr.offset?_call_iff.mp he
    have hmoved := evalArguments_movesTo hargs fun x hx => h.argument hx
    rw [eval_call, eval_call]
    cases hf : Function.ofName? name with
    | none => exact .error rfl
    | some f =>
      refine hmoved.bind fun found found' hfound => ?_
      have hname : name ≠ "IF" := fun heq => h.not_mem_calls (heq ▸ List.mem_cons_self)
      have happly := Function.apply_eq_of_alike (Function.ne_choose_of_ofName? hf hname) hfound
      rw [applyFunction, applyFunction, happly]
      exact requireFinite_movesTo _

/-- The argument that a call makes of an expression shows the same after the move. -/
lemma evalArgument_movesTo : ∀ {e e' : Expr}, e.offset? shift = some e' →
    e.MovesAlong shift cells cells' →
    MovesTo shift (Argument.Alike cells cells') (evalArgument limits cells e)
      (evalArgument limits cells' e')
  | .number n, _, he, _ => by
    cases he
    exact .ok (.number n)
  | .text content, _, he, _ => by
    cases he
    exact .ok (.text content)
  | .cell a, _, he, h => by
    obtain ⟨b, hb, rfl⟩ := Expr.offset?_cell_iff.mp he
    exact .ok (.cell (h.content_eq a b .cell hb))
  | .range r, _, he, h => by
    obtain ⟨r', hr, rfl⟩ := Expr.offset?_range_iff.mp he
    exact rangeArgument_movesTo hr h
  | .unary op x, _, he, h => by
    have heval := eval_movesTo he h
    obtain ⟨x', hx, rfl⟩ := Expr.offset?_unary_iff.mp he
    exact ofValue_movesTo heval
  | .binary op l r, _, he, h => by
    have heval := eval_movesTo he h
    obtain ⟨l', hl, r', hr, rfl⟩ := Expr.offset?_binary_iff.mp he
    exact ofValue_movesTo heval
  | .call name args, _, he, h => by
    have heval := eval_movesTo he h
    obtain ⟨args', hargs, rfl⟩ := Expr.offset?_call_iff.mp he
    exact ofValue_movesTo heval

/-- The arguments of a call show the same after the move, one by one. -/
lemma evalArguments_movesTo : ∀ {es es' : List Expr}, offsetAll? shift es = some es' →
    (∀ e ∈ es, e.MovesAlong shift cells cells') →
    MovesTo shift (List.Forall₂ (Argument.Alike cells cells')) (evalArguments limits cells es)
      (evalArguments limits cells' es')
  | [], _, hes, _ => by
    cases hes
    simp only [evalArguments]
    exact .ok .nil
  | e :: es, _, hes, h => by
    obtain ⟨e', he, us, hus, rfl⟩ := offsetAll?_cons_iff.mp hes
    have hothers := evalArguments_movesTo hus fun x hx =>
      h x (List.mem_cons_of_mem e hx)
    rw [evalArguments_cons, evalArguments_cons]
    refine (evalArgument_movesTo he (h e List.mem_cons_self)).bind fun arg arg' harg => ?_
    refine hothers.bind fun args args' hargs => ?_
    exact .ok (.cons harg hargs)

end

/-- A tree without a call of `IF` has the same value after a move of its references and of the texts
of the cells that it mentions, and fails after the move as before it, where an error that names a
range names the moved one. -/
theorem eval_offset {e e' : Expr} (he : e.offset? shift = some e') (hif : "IF" ∉ e.calls)
    (hcells : ∀ a b, e.Mentions a → shift.address? a = some b → cells a = cells' b) :
    (∀ v, eval limits cells e = .ok v ↔ eval limits cells' e' = .ok v) ∧
    ∀ err, eval limits cells e = .error err →
      ∃ err', err.offset? shift = some err' ∧ eval limits cells' e' = .error err' := by
  have halong : e.MovesAlong shift cells cells' := by
    refine ⟨hif, fun a b ha hb => ?_⟩
    unfold Snapshot.content
    rw [hcells a b ha hb]
  have hmoves : MovesTo shift Eq (eval limits cells e) (eval limits cells' e') :=
    eval_movesTo he halong
  generalize eval limits cells e = x at hmoves ⊢
  generalize eval limits cells' e' = y at hmoves ⊢
  cases hmoves with
  | ok result =>
    subst result
    refine ⟨fun _ => Iff.rfl, ?_⟩
    rintro _ ⟨⟩
  | @error err err' failure =>
    refine ⟨fun v => ?_, ?_⟩
    · simp only [reduceCtorEq]
    · rintro _ ⟨⟩
      exact ⟨err', failure, rfl⟩

/-- A range and a reversed range five rows further down, as a value and as an error. -/
theorem eval_offset_reversedRange :
    let a1 : Address := ⟨⟨1, by decide, by decide⟩, ⟨1, by decide, by decide⟩⟩
    let a2 : Address := ⟨⟨2, by decide, by decide⟩, ⟨1, by decide, by decide⟩⟩
    let a6 : Address := ⟨⟨6, by decide, by decide⟩, ⟨1, by decide, by decide⟩⟩
    let a7 : Address := ⟨⟨7, by decide, by decide⟩, ⟨1, by decide, by decide⟩⟩
    let tree (first last : Address) : Expr := .binary .join (.cell first)
      (.binary .subtract (.call "SUM" [.range ⟨first, last⟩])
        (.call "COUNT" [.range ⟨last, first⟩]))
    let cells : Snapshot := fun a => if a.row.val ≤ 2 then some " 2 " else none
    let cells' : Snapshot := fun a => if a.row.val ≤ 7 then some " 2 " else none
    (tree a1 a2).offset? ⟨0, 5⟩ = some (tree a6 a7) ∧ "IF" ∉ (tree a1 a2).calls ∧
      (∀ a b, (tree a1 a2).Mentions a → Shift.address? ⟨0, 5⟩ a = some b → cells a = cells' b) ∧
      eval {} cells' (tree a6 a7) = .ok (.text "24") ∧
      eval { maxRangeCells := 1 } cells' (tree a6 a7) = .error (.rangeTooLarge ⟨a6, a7⟩ 1) := by
  intro a1 a2 a6 a7 tree cells cells'
  have he : (tree a1 a2).offset? ⟨0, 5⟩ = some (tree a6 a7) := by decide +kernel
  have hif : "IF" ∉ (tree a1 a2).calls := by decide +kernel
  have hcells : ∀ a b, (tree a1 a2).Mentions a → Shift.address? ⟨0, 5⟩ a = some b →
      cells a = cells' b := by
    intro a b _ hb
    have hrow := Index.shift?_eq_some_iff.mp (Address.offset?_eq_some_iff.mp hb).2
    have hiff : a.row.val ≤ 2 ↔ b.row.val ≤ 7 := by
      dsimp only at hrow
      omega
    simp only [cells, cells', hiff]
  refine ⟨he, hif, hcells, ?_, ?_⟩
  · refine ((eval_offset he hif hcells).1 _).mp ?_
    decide +kernel
  · have herr : eval { maxRangeCells := 1 } cells (tree a1 a2) =
        .error (.rangeTooLarge ⟨a1, a2⟩ 1) := by
      decide +kernel
    obtain ⟨err', hmoved, herr'⟩ := (eval_offset he hif hcells).2 _ herr
    have hrange : Error.offset? ⟨0, 5⟩ (.rangeTooLarge ⟨a1, a2⟩ 1) =
        some (.rangeTooLarge ⟨a6, a7⟩ 1) := by
      decide +kernel
    rw [herr', Option.some.inj (hmoved.symm.trans hrange)]

end Formula

end Spreadsheet
