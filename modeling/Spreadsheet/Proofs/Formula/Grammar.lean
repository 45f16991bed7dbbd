import Mathlib.Tactic.Common
import Spreadsheet.Formula.Reading

/-!
# The grammar of expressions

The grammar that `Formula.Reading` quotes, as a relation between the tokens of a phrase and the
tree that they write.  A phrase has a *level*, the higher the tighter it binds: expressions have
level 0, joined phrases level 1, sums level 2, products level 3, signed phrases level 4 and
primaries level 5.  A phrase of some level is a phrase of every lower level too, and the left
operand of a binary operator has the operator's own level while the right one binds tighter, so
that operators of one level group to the left.

`Derives` also measures a derivation: `depth` is the largest number of parentheses, signs and calls
that a path from its root to a leaf passes through, and `calls` counts the calls on such a path
alone.
-/

namespace Spreadsheet

namespace Formula

mutual

/-- The tokens are a phrase of the given level and write the tree, by a derivation of the given
depth and nesting of calls. -/
inductive Derives : Nat → List Token → Expr → Nat → Nat → Prop where
  | number (value : Number) : Derives 5 [.number value] (.number value) 0 0
  | text (content : String) : Derives 5 [.text content] (.text content) 0 0
  | cell (address : Address) : Derives 5 [.cell address] (.cell address) 0 0
  | range (first last : Address) :
    Derives 5 [.cell first, .colon, .cell last] (.range ⟨first, last⟩) 0 0
  | paren {ts : List Token} {e : Expr} {depth calls : Nat} (inner : Derives 0 ts e depth calls) :
    Derives 5 (.openParen :: ts ++ [.closeParen]) e (depth + 1) calls
  | emptyCall (name : String) :
    Derives 5 [.name name, .openParen, .closeParen] (.call name []) 1 1
  | call (name : String) {ts : List Token} {es : List Expr} {depth calls : Nat}
    (arguments : DerivesArguments ts es depth calls) :
    Derives 5 (.name name :: .openParen :: ts ++ [.closeParen]) (.call name es) (depth + 1)
      (calls + 1)
  | signed {op : BinaryOp} {sign : UnaryOp} (spelling : op.sign? = some sign) {ts : List Token}
    {e : Expr} {depth calls : Nat} (operand : Derives 4 ts e depth calls) :
    Derives 4 (.operator op :: ts) (.unary sign e) (depth + 1) calls
  | binary (op : BinaryOp) {ts us : List Token} {left right : Expr} {d d' c c' : Nat}
    (first : Derives op.level ts left d c) (second : Derives (op.level + 1) us right d' c') :
    Derives op.level (ts ++ .operator op :: us) (.binary op left right) (max d d') (max c c')
  | looser {level : Nat} {ts : List Token} {e : Expr} {depth calls : Nat}
    (phrase : Derives (level + 1) ts e depth calls) : Derives level ts e depth calls

/-- The tokens are one or more expressions with commas between them, and write the trees. -/
inductive DerivesArguments : List Token → List Expr → Nat → Nat → Prop where
  | one {ts : List Token} {e : Expr} {depth calls : Nat} (argument : Derives 0 ts e depth calls) :
    DerivesArguments ts [e] depth calls
  | more {ts us : List Token} {es : List Expr} {e : Expr} {d d' c c' : Nat}
    (others : DerivesArguments ts es d c) (argument : Derives 0 us e d' c') :
    DerivesArguments (ts ++ .comma :: us) (es ++ [e]) (max d d') (max c c')

end

/-- A phrase of some level is a phrase of every lower level. -/
lemma Derives.of_le {k l : Nat} {ts : List Token} {e : Expr} {depth calls : Nat}
    (h : Derives k ts e depth calls) (hl : l ≤ k) : Derives l ts e depth calls := by
  induction k with
  | zero =>
    obtain rfl : l = 0 := Nat.le_zero.mp hl
    exact h
  | succ k ih =>
    rcases Nat.lt_or_eq_of_le hl with hlt | rfl
    · exact ih h.looser (Nat.le_of_lt_succ hlt)
    · exact h

/-- A derivation of arguments has one argument at least. An empty call is derived on its own. -/
lemma DerivesArguments.ne_nil {ts : List Token} {es : List Expr} {depth calls : Nat}
    (h : DerivesArguments ts es depth calls) : es ≠ [] := by
  cases h <;> simp

end Formula

end Spreadsheet
