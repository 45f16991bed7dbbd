import Spreadsheet.Formula.Function
import Spreadsheet.Formula.Reading

/-!
# Evaluating formulas

An expression has a value or fails with the first error, operands from left to right. The operators
of a chain such as `1+2+3` nest to the left as deep as the chain is long, so the walk down a left
spine carries the operators still to apply, innermost first, and applies them in a loop.
-/

namespace Spreadsheet

namespace Formula

/-! ### Operators on values -/

/-- The number of a value; text counts when it is numeric. -/
def toNumber : Value → Except Error Number
  | .number value => .ok value
  | .text content =>
    match Number.ofCellText? content with
    | some value => .ok value
    | none => .error (.notANumber content)

/-- A number that is infinite or not-a-number is no outcome. -/
def requireFinite (v : Value) : Except Error Value :=
  match v with
  | .number value => if value.isFinite then .ok v else .error .notFinite
  | .text _ => .ok v

/-- Numbers compare by value and texts by code points. A number and a numeric text compare by
value, a number and any other text by their texts. -/
def order (left right : Value) : Option Ordering :=
  match left, right with
  | .number x, .number y => x.compare? y
  | .text s, .text t => some (compare s t)
  | .number x, .text t =>
    match Number.ofCellText? t with
    | some y => x.compare? y
    | none => some (compare x.display t)
  | .text s, .number y =>
    match Number.ofCellText? s with
    | some x => x.compare? y
    | none => some (compare s y.display)

/-- The outcome of an operator, before the check that it is finite. Addition joins as soon as one
operand is text. -/
def combine (op : BinaryOp) (left right : Value) : Except Error Value :=
  match op with
  | .join => .ok (.text (left.display ++ right.display))
  | .add =>
    match left, right with
    | .number x, .number y => .ok (.number (x + y))
    | left, right => .ok (.text (left.display ++ right.display))
  | .subtract => do return .number ((← toNumber left) - (← toNumber right))
  | .multiply => do return .number ((← toNumber left) * (← toNumber right))
  | .divide => do
    let x ← toNumber left
    let y ← toNumber right
    if y.isZero then .error .notFinite else .ok (.number (x / y))
  | .compare test => .ok (.number (if test.holds (order left right) then .one else .zero))

/-- The outcome of an operator. -/
def applyBinary (op : BinaryOp) (left right : Value) : Except Error Value := do
  requireFinite (← combine op left right)

/-- The outcome of a sign. -/
def applyUnary (op : UnaryOp) (v : Value) : Except Error Value := do
  let value ← toNumber v
  match op with
  | .plus => return .number value
  | .minus => return .number (-value)

/-! ### Chains of operators -/

/-- An operand of a chain: its outcome, and whether it is a reference to a blank cell, which joins
as empty text. -/
structure Operand where
  isBlankCell : Bool
  outcome : Unit → Except Error Value

/-- The outcome of an operand that is joined to text. -/
def Operand.joined (x : Operand) : Except Error Value := do
  if x.isBlankCell then return .text ""
  return .text (← x.outcome ()).display

/-- An operator that waits for its left operand, with its right operand. -/
structure Pending where
  op : BinaryOp
  right : Operand

/-- Applies a waiting operator to its left operand. -/
def Pending.apply (left : Value) (p : Pending) : Except Error Value := do
  match p.op with
  | .join => applyBinary .join left (← p.right.joined)
  | op => applyBinary op left (← p.right.outcome ())

/-- The outcome of a chain: its first operand, then the waiting operators from the innermost on. -/
def chain (x : Operand) (pending : List Pending) : Except Error Value := do
  let first ← match pending with
    | ⟨.join, _⟩ :: _ => x.joined
    | _ => x.outcome ()
  pending.foldlM Pending.apply first

/-! ### Expressions -/

variable (limits : Limits) (cells : Snapshot)

/-- A reference to a blank cell. -/
def isBlankCell : Expr → Bool
  | .cell address => cells.content address = .blank
  | _ => false

/-- A range argument within the limit. -/
def rangeArgument (range : Range) : Except Error Argument :=
  if range.cellCount ≤ limits.maxRangeCells then .ok (.range range)
  else .error (.rangeTooLarge range limits.maxRangeCells)

/-- The outcome of a call, once its name is known to be a function. -/
def applyFunction (f : Function) (args : List Argument) : Except Error Value :=
  requireFinite (f.apply cells args)

mutual

/-- The outcome of an expression and of the operators that wait for it. -/
def evalChain (e : Expr) (pending : List Pending) : Except Error Value :=
  match e with
  | .number value => chain ⟨false, fun _ => .ok (.number value)⟩ pending
  | .text content => chain ⟨false, fun _ => .ok (.text content)⟩ pending
  | .cell address =>
    let content := cells.content address
    chain ⟨content = .blank, fun _ => .ok content.value⟩ pending
  | .range range => chain ⟨false, fun _ => .error (.rangeAsValue range)⟩ pending
  | .unary op operand =>
    chain ⟨false, fun _ => do applyUnary op (← evalChain operand [])⟩ pending
  | .binary op left right =>
    evalChain left (⟨op, isBlankCell cells right, fun _ => evalChain right []⟩ :: pending)
  | .call name args =>
    let outcome := fun _ =>
      match Function.ofName? name with
      | some f => do applyFunction cells f (← evalArguments args)
      | none => .error (.unknownFunction name)
    chain ⟨false, outcome⟩ pending

/-- The arguments of a call: literals, cells and ranges as written, anything else by its value. -/
def evalArguments (args : List Expr) : Except Error (List Argument) :=
  match args with
  | [] => .ok []
  | e :: es => do
    let arg ← match e with
      | .number value => .ok (.number value)
      | .text content => .ok (.text content)
      | .cell address => .ok (.cell address)
      | .range range => rangeArgument limits range
      | e => (evalChain e []).map Argument.ofValue
    return arg :: (← evalArguments es)

end

/-- The value of an expression. -/
def eval (e : Expr) : Except Error Value :=
  evalChain limits cells e []

/-- A formula without the `=` in front. -/
def body (formula : String) : String :=
  match formula.toList with
  | '=' :: cs => String.ofList cs
  | _ => formula

/-- The value of a formula text, with or without the `=` in front. -/
def evaluate (formula : String) : Except Error Value :=
  if formula.length ≤ limits.maxLength then do
    eval limits cells (← Expr.ofText limits (body formula))
  else .error (.tooLong limits.maxLength)

/-- The text that shows a failed evaluation. -/
def errorDisplay : String := "#ERROR!"

/-- The text that shows the outcome of an evaluation. -/
def display : Except Error Value → String
  | .ok v => v.display
  | .error _ => errorDisplay

end Formula

end Spreadsheet
