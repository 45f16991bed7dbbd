import Spreadsheet.Formula.Error
import Spreadsheet.Formula.Expr
import Spreadsheet.Formula.Limits

/-!
# Reading expressions

The grammar, with every binary operator grouping to the left:

```text
expression     = joined, { comparison, joined }
joined         = sum, { "&", sum }
sum            = product, { ( "+" | "-" ), product }
product        = signed, { ( "*" | "/" ), signed }
signed         = ( "+" | "-" ), signed | primary
primary        = number | text | cell | cell, ":", cell | call | "(", expression, ")"
call           = name, "(", [ expression, { ",", expression } ], ")"
```

The tree is built in one pass over the tokens. Between two tokens the state is the stack of the
constructs still open, innermost first, and what may come next. Parentheses, signs and calls count
towards the depth while they are open, and a call inside another one's arguments needs leave.
-/

namespace Spreadsheet

namespace Formula

/-- An open construct, with what it holds so far. -/
inductive Frame where
  /-- A left operand and its operator wait for the right operand. -/
  | binary (op : BinaryOp) (left : Expr)
  | unary (op : UnaryOp)
  | paren
  /-- A call with its complete arguments, latest first. -/
  | call (name : String) (args : List Expr)

/-- What may come next. -/
inductive Awaiting where
  | operand
  /-- The arguments of a name. -/
  | arguments (name : String)
  /-- The first argument of a call, or its end. -/
  | firstArgument
  /-- Behind a cell: the colon of a range, or what follows an operand. -/
  | colonOrNext (address : Address)
  /-- The second corner of a range. -/
  | corner (first : Address)
  /-- Behind an operand. -/
  | next (operand : Expr)
  | nothing (expression : Expr)

/-- The state between two tokens. -/
structure Progress where
  frames : List Frame
  /-- Open parentheses, signs and calls. -/
  depth : Nat
  /-- Open calls. -/
  calls : Nat
  awaiting : Awaiting

/-- The state before the first token. -/
def Progress.start : Progress :=
  ⟨[], 0, 0, .operand⟩

namespace Progress

/-- Completes the innermost signs and the innermost operators that bind at least as tightly as
`level`, with `e` as the last operand. Gives the frames left, their depth and the operand they now
have. -/
def complete (level : Nat) : List Frame → Nat → Expr → List Frame × Nat × Expr
  | .unary op :: frames, depth, e => complete level frames (depth - 1) (.unary op e)
  | .binary op left :: frames, depth, e =>
    if level ≤ op.level then complete level frames depth (.binary op left e)
    else (.binary op left :: frames, depth, e)
  | frames, depth, e => (frames, depth, e)

variable (limits : Limits)

/-- Opens a construct that counts towards the depth. -/
def enter (p : Progress) (frame : Frame) (awaiting : Awaiting) : Except Error Progress :=
  if p.depth < limits.maxDepth then
    .ok { p with frames := frame :: p.frames, depth := p.depth + 1, awaiting }
  else .error (.tooDeep limits.maxDepth)

/-- Takes a token where an operand may start. -/
def takeOperand (p : Progress) (found : Placed) : Except Error Progress :=
  match found.token with
  | .number value => .ok { p with awaiting := .next (.number value) }
  | .text content => .ok { p with awaiting := .next (.text content) }
  | .cell address => .ok { p with awaiting := .colonOrNext address }
  | .name name => .ok { p with awaiting := .arguments name }
  | .openParen => p.enter limits .paren .operand
  | .operator op =>
    match op.sign? with
    | some sign => p.enter limits (.unary sign) .operand
    | none => .error (.unexpectedToken found)
  | _ => .error (.unexpectedToken found)

/-- Takes a token behind the complete operand `e`. -/
def takeNext (p : Progress) (e : Expr) (found : Placed) : Except Error Progress :=
  match found.token with
  | .operator op =>
    let (frames, depth, left) := complete op.level p.frames p.depth e
    .ok { p with frames := .binary op left :: frames, depth, awaiting := .operand }
  | token =>
    match complete 0 p.frames p.depth e, token with
    | (.paren :: frames, depth, e), .closeParen =>
      .ok { p with frames, depth := depth - 1, awaiting := .next e }
    | (.call name args :: frames, depth, e), .closeParen =>
      .ok ⟨frames, depth - 1, p.calls - 1, .next (.call name (e :: args).reverse)⟩
    | (.call name args :: frames, depth, e), .comma =>
      .ok { p with frames := .call name (e :: args) :: frames, depth, awaiting := .operand }
    | ([], depth, e), .endOfText => .ok { p with frames := [], depth, awaiting := .nothing e }
    | _, _ => .error (.unexpectedToken found)

/-- Takes one more token. -/
def take (p : Progress) (found : Placed) : Except Error Progress :=
  match p.awaiting with
  | .operand => p.takeOperand limits found
  | .arguments name =>
    if found.token = .openParen then
      if 0 < p.calls ∧ ¬limits.nestedCalls then .error (.nestedCall name)
      else { p with calls := p.calls + 1 }.enter limits (.call name []) .firstArgument
    else .error (.unknownName name)
  | .firstArgument =>
    match p.frames, found.token with
    | .call name _ :: frames, .closeParen =>
      .ok ⟨frames, p.depth - 1, p.calls - 1, .next (.call name [])⟩
    | _, _ => p.takeOperand limits found
  | .colonOrNext address =>
    if found.token = .colon then .ok { p with awaiting := .corner address }
    else p.takeNext (.cell address) found
  | .corner first =>
    match found.token with
    | .cell last => .ok { p with awaiting := .next (.range ⟨first, last⟩) }
    | _ => .error (.unexpectedToken found)
  | .next e => p.takeNext e found
  | .nothing _ => .error (.unexpectedToken found)

end Progress

namespace Expr

/-- The tree that tokens write; the tokens end with the end of the text. -/
def ofTokens (limits : Limits) (tokens : List Placed) : Except Error Expr := do
  let final ← tokens.foldlM (Progress.take limits) .start
  match final.awaiting with
  | .nothing e => .ok e
  | _ => .error (.unexpectedToken ⟨.endOfText, 0⟩)

/-- The tree that a text writes. -/
def ofText (limits : Limits) (s : String) : Except Error Expr :=
  match tokens s with
  | .ok found => ofTokens limits found
  | .error (offset, fault) => .error (.lexical offset fault)

end Expr

end Formula

end Spreadsheet
