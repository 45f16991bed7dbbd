import Mathlib.Data.List.Forall2
import Mathlib.Data.List.Chain
import Spreadsheet.Formula.Shift
import Spreadsheet.Proofs.Formula.Grammar
import Spreadsheet.Proofs.Formula.Trees

/-!
# Trees moved by a shift

`Expr.offset?` moves every reference and every corner of a range of a tree, and fails when one of
them would leave the grid.  Tokens move in the same way, and a derivation of the grammar moves with
its tokens (`Derives.offset`).  Two more facts about derivations say what else the tokens of a tree
share with it: its numbers (`Derives.numbers_eq`), and that no operand stands directly behind
another one (`Derives.adjacent`).
-/

namespace Spreadsheet

namespace Formula

/-! ## Moved trees and tokens -/

namespace Shift

/-- The address after a move, if the grid has it. -/
def address? (shift : Shift) (a : Address) : Option Address :=
  a.offset? shift.columns shift.rows

/-- The range with both corners moved. -/
def range? (shift : Shift) (r : Range) : Option Range := do
  return ⟨← shift.address? r.first, ← shift.address? r.last⟩

end Shift

mutual

/-- The tree with its references and the corners of its ranges moved, if the grid has them. -/
def Expr.offset? (shift : Shift) : Expr → Option Expr
  | .number value => some (.number value)
  | .text content => some (.text content)
  | .cell a => do return .cell (← shift.address? a)
  | .range r => do return .range (← shift.range? r)
  | .unary op e => do return .unary op (← e.offset? shift)
  | .binary op l r => do return .binary op (← l.offset? shift) (← r.offset? shift)
  | .call name args => do return .call name (← offsetAll? shift args)

/-- Several trees, each of them moved. -/
def offsetAll? (shift : Shift) : List Expr → Option (List Expr)
  | [] => some []
  | e :: es => do return (← e.offset? shift) :: (← offsetAll? shift es)

end

/-- The token after a move. -/
def Token.offset? (shift : Shift) : Token → Option Token
  | .cell a => do return .cell (← shift.address? a)
  | t => some t

/-- The tokens move one by one. -/
def Moves (shift : Shift) : List Token → List Token → Prop :=
  List.Forall₂ fun t t' => t.offset? shift = some t'

variable {shift : Shift}

/-- A shift by nothing loses no address. -/
lemma Shift.address?_zero (a : Address) : Shift.address? ⟨0, 0⟩ a = some a := by
  have hshift : ∀ i : Index, i.shift? 0 = some i := fun i => Index.shift?_eq_some_iff.mpr (by simp)
  simp [address?, Address.offset?, hshift]

mutual

/-- Without a distance every tree stays as it is. -/
lemma Expr.offset?_zero : ∀ e : Expr, e.offset? ⟨0, 0⟩ = some e
  | .number _ | .text _ => by simp only [Expr.offset?]
  | .cell a => by simp [Expr.offset?, Shift.address?_zero]
  | .range r => by simp [Expr.offset?, Shift.range?, Shift.address?_zero]
  | .unary op e => by simp [Expr.offset?, e.offset?_zero]
  | .binary op l r => by simp [Expr.offset?, l.offset?_zero, r.offset?_zero]
  | .call name args => by simp [Expr.offset?, offsetAll?_zero args]

/-- A shift by nothing loses no reference of several trees. -/
lemma offsetAll?_zero : ∀ es : List Expr, offsetAll? ⟨0, 0⟩ es = some es
  | [] => rfl
  | e :: es => by simp [offsetAll?, e.offset?_zero, offsetAll?_zero es]

end

/-! ## What moves into what -/

/-- A range is moved by its two corners, and lost with either of them. -/
lemma Shift.range?_eq_some_iff {r r' : Range} : shift.range? r = some r' ↔
    shift.address? r.first = some r'.first ∧ shift.address? r.last = some r'.last := by
  simp only [Shift.range?, Option.bind_eq_bind, Option.bind_eq_some_iff]
  constructor
  · rintro ⟨first, hfirst, last, hlast, hr⟩
    cases hr
    exact ⟨hfirst, hlast⟩
  · rintro ⟨hfirst, hlast⟩
    exact ⟨r'.first, hfirst, r'.last, hlast, rfl⟩

section Inversion

variable {e' : Expr} {es' : List Expr}

/-- A reference moves exactly if its address does. -/
lemma Expr.offset?_cell_iff {a : Address} : (Expr.cell a).offset? shift = some e' ↔
    ∃ b, shift.address? a = some b ∧ .cell b = e' := by
  simp only [Expr.offset?, Option.bind_eq_bind, Option.bind_eq_some_iff, Option.pure_def,
    Option.some.injEq]

/-- A tree that is a range moves exactly if the range does. -/
lemma Expr.offset?_range_iff {r : Range} : (Expr.range r).offset? shift = some e' ↔
    ∃ r', shift.range? r = some r' ∧ .range r' = e' := by
  simp only [Expr.offset?, Option.bind_eq_bind, Option.bind_eq_some_iff, Option.pure_def,
    Option.some.injEq]

/-- A signed tree moves exactly if its operand does, and keeps its sign. -/
lemma Expr.offset?_unary_iff {op : UnaryOp} {e : Expr} : (Expr.unary op e).offset? shift = some e' ↔
    ∃ x, e.offset? shift = some x ∧ .unary op x = e' := by
  simp only [Expr.offset?, Option.bind_eq_bind, Option.bind_eq_some_iff, Option.pure_def,
    Option.some.injEq]

/-- An operator moves exactly if both of its operands do. -/
lemma Expr.offset?_binary_iff {op : BinaryOp} {l r : Expr} :
    (Expr.binary op l r).offset? shift = some e' ↔
      ∃ l', l.offset? shift = some l' ∧
        ∃ r', r.offset? shift = some r' ∧ .binary op l' r' = e' := by
  simp only [Expr.offset?, Option.bind_eq_bind, Option.bind_eq_some_iff, Option.pure_def,
    Option.some.injEq]

/-- A call moves exactly if all of its arguments do, and keeps its name. -/
lemma Expr.offset?_call_iff {name : String} {es : List Expr} :
    (Expr.call name es).offset? shift = some e' ↔
      ∃ us, offsetAll? shift es = some us ∧ .call name us = e' := by
  simp only [Expr.offset?, Option.bind_eq_bind, Option.bind_eq_some_iff, Option.pure_def,
    Option.some.injEq]

/-- Several trees move exactly if the first one and the others do. -/
lemma offsetAll?_cons_iff {e : Expr} {es : List Expr} : offsetAll? shift (e :: es) = some es' ↔
    ∃ x, e.offset? shift = some x ∧ ∃ us, offsetAll? shift es = some us ∧ x :: us = es' := by
  simp only [offsetAll?, Option.bind_eq_bind, Option.bind_eq_some_iff, Option.pure_def,
    Option.some.injEq]

end Inversion

/-- Where trees move, those in front and those behind move on their own. -/
lemma offsetAll?_append {es us es' : List Expr} (h : offsetAll? shift (es ++ us) = some es') :
    ∃ first last, offsetAll? shift es = some first ∧ offsetAll? shift us = some last ∧
      es' = first ++ last := by
  induction es generalizing es' with
  | nil => exact ⟨[], es', rfl, h, rfl⟩
  | cons e es ih =>
    obtain ⟨e', he, us', hus, rfl⟩ := offsetAll?_cons_iff.mp h
    obtain ⟨first, last, hfirst, hlast, rfl⟩ := ih hus
    exact ⟨e' :: first, last, offsetAll?_cons_iff.mpr ⟨e', he, first, hfirst, rfl⟩, hlast, rfl⟩

/-- Tokens that move one after the other move together. -/
lemma Moves.append {ts us ts' us' : List Token} (h : Moves shift ts ts') (h' : Moves shift us us') :
    Moves shift (ts ++ us) (ts' ++ us') :=
  List.rel_append h h'

/-- A token that the shift leaves alone may be put in front of tokens that move. -/
lemma Moves.cons {t : Token} {ts ts' : List Token} (ht : t.offset? shift = some t)
    (h : Moves shift ts ts') : Moves shift (t :: ts) (t :: ts') :=
  List.Forall₂.cons ht h

/-- A token that moves does so as a list of one token. -/
lemma Moves.single {t t' : Token} (ht : t.offset? shift = some t') : Moves shift [t] [t'] :=
  List.Forall₂.cons ht List.Forall₂.nil

mutual

/-- The moved tokens of a phrase write the moved tree. -/
lemma Derives.offset {level d c : Nat} {ts : List Token} {e e' : Expr} :
    Derives level ts e d c → e.offset? shift = some e' →
      ∃ ts', Moves shift ts ts' ∧ Derives level ts' e' d c
  | .number value, h => by
    cases h
    exact ⟨_, .single rfl, .number value⟩
  | .text content, h => by
    cases h
    exact ⟨_, .single rfl, .text content⟩
  | .cell a, h => by
    obtain ⟨a', ha, rfl⟩ := Expr.offset?_cell_iff.mp h
    exact ⟨_, .single (by simp [Token.offset?, ha]), .cell a'⟩
  | .range first last, h => by
    obtain ⟨⟨first', last'⟩, hr, rfl⟩ := Expr.offset?_range_iff.mp h
    obtain ⟨hfirst, hlast⟩ := Shift.range?_eq_some_iff.mp hr
    refine ⟨_, ?_, .range first' last'⟩
    have hlast' : Moves shift [.cell last] [.cell last'] := .single (by simp [Token.offset?, hlast])
    exact List.Forall₂.cons (by simp [Token.offset?, hfirst]) (hlast'.cons rfl)
  | .paren inner, h => by
    obtain ⟨ts', hts, hder⟩ := inner.offset h
    exact ⟨_, (hts.append (.single rfl)).cons rfl, hder.paren⟩
  | .emptyCall name, h => by
    obtain ⟨_, hnil, rfl⟩ := Expr.offset?_call_iff.mp h
    cases hnil
    exact ⟨_, ((Moves.single rfl).cons rfl).cons rfl, .emptyCall name⟩
  | .call name arguments, h => by
    obtain ⟨es', hes, rfl⟩ := Expr.offset?_call_iff.mp h
    obtain ⟨ts', hts, hder⟩ := arguments.offset hes
    exact ⟨_, ((hts.append (.single rfl)).cons rfl).cons rfl, .call name hder⟩
  | .signed spelling operand, h => by
    obtain ⟨e', he, rfl⟩ := Expr.offset?_unary_iff.mp h
    obtain ⟨ts', hts, hder⟩ := operand.offset he
    exact ⟨_, hts.cons rfl, .signed spelling hder⟩
  | .binary op first second, h => by
    obtain ⟨l', hl, r', hr, rfl⟩ := Expr.offset?_binary_iff.mp h
    obtain ⟨ts', hts, hfirst⟩ := first.offset hl
    obtain ⟨us', hus, hsecond⟩ := second.offset hr
    exact ⟨_, hts.append (hus.cons rfl), .binary op hfirst hsecond⟩
  | .looser phrase, h => by
    obtain ⟨ts', hts, hder⟩ := phrase.offset h
    exact ⟨ts', hts, hder.looser⟩

/-- The tokens of arguments move as the trees do, and are derived as the moved ones, as deep as
before. -/
lemma DerivesArguments.offset {d c : Nat} {ts : List Token} {es es' : List Expr} :
    DerivesArguments ts es d c → offsetAll? shift es = some es' →
      ∃ ts', Moves shift ts ts' ∧ DerivesArguments ts' es' d c
  | .one argument, h => by
    obtain ⟨e', he, _, hnil, rfl⟩ := offsetAll?_cons_iff.mp h
    cases hnil
    obtain ⟨ts', hts, hder⟩ := argument.offset he
    exact ⟨ts', hts, .one hder⟩
  | .more others argument, h => by
    obtain ⟨first, last, hfirst, hlast, rfl⟩ := offsetAll?_append h
    obtain ⟨e', he, _, hnil, rfl⟩ := offsetAll?_cons_iff.mp hlast
    cases hnil
    obtain ⟨ts', hts, hothers⟩ := others.offset hfirst
    obtain ⟨us', hus, hargument⟩ := argument.offset he
    exact ⟨_, hts.append (hus.cons rfl), .more hothers hargument⟩

end

/-! ## Numbers -/

/-- The number of a token. -/
def Token.number? : Token → Option Number
  | .number value => some value
  | _ => none

/-- No move changes a number, and none makes a number of another token. -/
lemma Token.number?_of_offset? {t t' : Token} (h : t.offset? shift = some t') :
    t'.number? = t.number? := by
  cases t with
  | cell a =>
    simp only [Token.offset?, Option.bind_eq_bind, Option.bind_eq_some_iff] at h
    obtain ⟨a', -, h⟩ := h
    cases h
    rfl
  | _ =>
    cases h
    rfl

/-- Moved tokens hold the same numbers in the same order, since only references move. -/
lemma Moves.numbers_eq {ts ts' : List Token} (h : Moves shift ts ts') :
    ts'.filterMap Token.number? = ts.filterMap Token.number? := by
  induction h with
  | nil => rfl
  | cons ht _ ih => rw [List.filterMap_cons, List.filterMap_cons, Token.number?_of_offset? ht, ih]

mutual

/-- The numbers of a tree are those of its tokens, in order. -/
lemma Derives.numbers_eq {level d c : Nat} {ts : List Token} {e : Expr} :
    Derives level ts e d c → ts.filterMap Token.number? = e.numbers
  | .number _ | .text _ | .cell _ | .range _ _ | .emptyCall _ => by
    simp [Expr.numbers, Token.number?, numbersAll]
  | .paren inner => by simp [List.filterMap_cons, Token.number?, inner.numbers_eq]
  | .call _ arguments => by
    simp [List.filterMap_cons, Token.number?, Expr.numbers, arguments.numbers_eq]
  | .signed _ operand => by
    simp [List.filterMap_cons, Token.number?, Expr.numbers, operand.numbers_eq]
  | .binary _ first second => by
    simp [List.filterMap_cons, Token.number?, Expr.numbers, first.numbers_eq, second.numbers_eq]
  | .looser phrase => phrase.numbers_eq

/-- The numbers among the tokens of arguments are those of the trees, from left to right. -/
lemma DerivesArguments.numbers_eq {d c : Nat} {ts : List Token} {es : List Expr} :
    DerivesArguments ts es d c → ts.filterMap Token.number? = numbersAll es
  | .one argument => by simp [numbersAll, argument.numbers_eq]
  | .more others argument => by
    simp [List.filterMap_cons, Token.number?, numbersAll_append, others.numbers_eq,
      argument.numbers_eq, numbersAll]

end

/-! ## Neighbours -/

/-- The token is a complete operand. -/
def Token.IsOperand : Token → Prop
  | .number _ | .text _ | .cell _ => True
  | _ => False

/-- The token may stand directly behind an operand. -/
def Token.Continues : Token → Prop
  | .number _ | .text _ | .cell _ | .name _ | .openParen => False
  | _ => True

/-- The second token may stand directly behind the first one. -/
def Follows (t u : Token) : Prop :=
  t.IsOperand → u.Continues

/-- Every token may stand directly behind the one before it. -/
def Adjacent (ts : List Token) : Prop :=
  ts.IsChain Follows

/-- Behind a mark that is no operand, anything may stand. -/
lemma Adjacent.cons {t : Token} {ts : List Token} (ht : ¬t.IsOperand) (h : Adjacent ts) :
    Adjacent (t :: ts) :=
  List.isChain_cons.mpr ⟨fun _ _ hoperand => absurd hoperand ht, h⟩

/-- Phrases keep their neighbours apart by a mark between them. -/
lemma Adjacent.append {t : Token} {ts us : List Token} (hts : Adjacent ts) (ht : t.Continues)
    (hus : Adjacent (t :: us)) : Adjacent (ts ++ t :: us) := by
  refine List.isChain_append.mpr ⟨hts, hus, ?_⟩
  rintro u - _ ⟨⟩ -
  exact ht

lemma adjacent_single (t : Token) : Adjacent [t] :=
  List.isChain_singleton t

/-- A phrase in parentheses keeps its neighbours apart. -/
lemma Adjacent.paren {ts : List Token} (h : Adjacent ts) :
    Adjacent (.openParen :: ts ++ [.closeParen]) :=
  (h.append (t := .closeParen) trivial (adjacent_single _)).cons id

mutual

/-- In a phrase no operand stands directly behind another one, and no opening parenthesis does. -/
lemma Derives.adjacent {level d c : Nat} {ts : List Token} {e : Expr} :
    Derives level ts e d c → Adjacent ts
  | .number _ | .text _ | .cell _ => adjacent_single _
  | .range first last =>
    (adjacent_single (.cell first)).append trivial ((adjacent_single (.cell last)).cons id)
  | .paren inner => inner.adjacent.paren
  | .emptyCall _ => ((adjacent_single _).cons id).cons id
  | .call _ arguments => arguments.adjacent.paren.cons id
  | .signed _ operand => operand.adjacent.cons id
  | .binary _ first second => first.adjacent.append trivial (second.adjacent.cons id)
  | .looser phrase => phrase.adjacent

/-- In arguments no operand stands directly behind another one. -/
lemma DerivesArguments.adjacent {d c : Nat} {ts : List Token} {es : List Expr} :
    DerivesArguments ts es d c → Adjacent ts
  | .one argument => argument.adjacent
  | .more others argument => others.adjacent.append trivial (argument.adjacent.cons id)

end

end Formula

end Spreadsheet
