/-!
# Operators of formulas

Binary operators bind in four levels, from comparisons, which bind loosest, through joining and
addition to multiplication. Signs bind tighter than all of them.
-/

namespace Spreadsheet

namespace Formula

/-- A comparison of two values. -/
inductive Comparison where
  | equal
  | notEqual
  | less
  | lessEqual
  | greater
  | greaterEqual
deriving DecidableEq

/-- An operator between two operands. -/
inductive BinaryOp where
  | compare (test : Comparison)
  | join
  | add
  | subtract
  | multiply
  | divide
deriving DecidableEq

/-- A sign in front of an operand. -/
inductive UnaryOp where
  | plus
  | minus
deriving DecidableEq

/-- The spelling of a comparison. -/
def Comparison.symbol : Comparison → String
  | .equal => "="
  | .notEqual => "<>"
  | .less => "<"
  | .lessEqual => "<="
  | .greater => ">"
  | .greaterEqual => ">="

/-- The spelling of a binary operator. -/
def BinaryOp.symbol : BinaryOp → String
  | .compare test => test.symbol
  | .join => "&"
  | .add => "+"
  | .subtract => "-"
  | .multiply => "*"
  | .divide => "/"

/-- The spelling of a sign. -/
def UnaryOp.symbol : UnaryOp → String
  | .plus => "+"
  | .minus => "-"

/-- How tightly a binary operator binds. -/
def BinaryOp.level : BinaryOp → Nat
  | .compare _ => 0
  | .join => 1
  | .add => 2
  | .subtract => 2
  | .multiply => 3
  | .divide => 3

/-- The sign spelled like a binary operator, if there is one. -/
def BinaryOp.sign? : BinaryOp → Option UnaryOp
  | .add => some .plus
  | .subtract => some .minus
  | _ => none

/-- Whether a comparison holds of operands in the given order; incomparable operands differ. -/
def Comparison.holds (test : Comparison) (order : Option Ordering) : Bool :=
  match test with
  | .equal => order == some .eq
  | .notEqual => order != some .eq
  | .less => order == some .lt
  | .lessEqual => order == some .lt || order == some .eq
  | .greater => order == some .gt
  | .greaterEqual => order == some .gt || order == some .eq

end Formula

end Spreadsheet
