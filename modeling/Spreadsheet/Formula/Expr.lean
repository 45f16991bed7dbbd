import Spreadsheet.Cell.Number
import Spreadsheet.Formula.Operator
import Spreadsheet.Grid.Range

/-!
# Expression trees
-/

namespace Spreadsheet

namespace Formula

/-- The tree of a formula. Parentheses leave no trace in it. -/
inductive Expr where
  | number (value : Number)
  | text (content : String)
  | cell (address : Address)
  | range (range : Range)
  | unary (op : UnaryOp) (operand : Expr)
  | binary (op : BinaryOp) (left right : Expr)
  | call (name : String) (args : List Expr)

/-- A node of a tree, without what is below it. -/
inductive Node where
  | number (value : Number)
  | text (content : String)
  | cell (address : Address)
  | range (range : Range)
  | unary (op : UnaryOp)
  | binary (op : BinaryOp)
  | call (name : String) (argCount : Nat)
deriving DecidableEq

mutual

/-- The nodes of a tree, operands before their operators, in front of `rest`. -/
def Expr.postorderOnto (rest : List Node) : Expr → List Node
  | .number value => .number value :: rest
  | .text content => .text content :: rest
  | .cell address => .cell address :: rest
  | .range range => .range range :: rest
  | .unary op operand => operand.postorderOnto (.unary op :: rest)
  | .binary op left right => left.postorderOnto (right.postorderOnto (.binary op :: rest))
  | .call name args => postorderAllOnto (.call name args.length :: rest) args

/-- The nodes of several trees in a row, in front of `rest`. -/
def postorderAllOnto (rest : List Node) : List Expr → List Node
  | [] => rest
  | e :: es => e.postorderOnto (postorderAllOnto rest es)

end

/-- The nodes of a tree, operands before their operators. -/
def Expr.postorder (e : Expr) : List Node :=
  e.postorderOnto []

end Formula

end Spreadsheet
