import Spreadsheet.Cell.Content
import Spreadsheet.Grid.Range

/-!
# Functions of formulas

A function receives its arguments as written: a literal or computed value, a cell or a range. The
numeric functions take the numbers among them and skip everything else; a range stands for its
cells, row by row.
-/

namespace Spreadsheet

namespace Formula

/-- An argument of a call. -/
inductive Argument where
  | number (value : Number)
  | text (content : String)
  | cell (address : Address)
  | range (range : Range)
deriving DecidableEq

/-- A value as an argument. -/
def Argument.ofValue : Value → Argument
  | .number value => .number value
  | .text content => .text content

namespace Argument

variable (cells : Snapshot)

/-- The numbers that an argument contributes. -/
def numbers : Argument → List Number
  | .number value => [value]
  | .text _ => []
  | .cell address => (cells.content address).number?.toList
  | .range r => r.cells.filterMap fun a => (cells.content a).number?

/-- The text that an argument contributes to a longer text. -/
def joined : Argument → String
  | .number value => value.display
  | .text content => content
  | .cell address => (cells.content address).joined
  | .range r => r.cells.foldl (fun s a => s ++ (cells.content a).joined) ""

/-- Whether an argument counts as true: a number other than zero, or any text but the empty one.
A cell counts by its value, and a range is always true. -/
def isTrue : Argument → Bool
  | .number value => !value.isZero
  | .text content => content != ""
  | .cell address =>
    match (cells.content address).value with
    | .number value => !value.isZero
    | .text content => content != ""
  | .range _ => true

/-- An argument as an outcome: a cell or a range gives its own address, not what it holds. -/
def asWritten : Argument → Value
  | .number value => .number value
  | .text content => .text content
  | .cell address => .text address.text
  | .range r => .text r.text

end Argument

/-! ### The functions -/

/-- A function of formulas. -/
inductive Function where
  | sum
  | average
  | count
  | max
  | min
  | concatenate
  | choose
deriving DecidableEq

namespace Function

/-- All functions, in the order of the listing. -/
def all : List Function :=
  [.sum, .average, .count, .max, .min, .concatenate, .choose]

/-- The name that a call uses. -/
def name : Function → String
  | .sum => "SUM"
  | .average => "AVERAGE"
  | .count => "COUNT"
  | .max => "MAX"
  | .min => "MIN"
  | .concatenate => "CONCATENATE"
  | .choose => "IF"

/-- How a call is written. -/
def usage : Function → String
  | .choose => "IF(condition, then, else)"
  | f => f.name ++ "(value, ...)"

/-- What a function computes. -/
def description : Function → String
  | .sum => "Sum of numeric values"
  | .average => "Mean of numeric values, 0 when there are none"
  | .count => "Count of numeric values"
  | .max => "Largest numeric value, 0 when there are none"
  | .min => "Smallest numeric value, 0 when there are none"
  | .concatenate => "Join the text of every argument"
  | .choose => "Pick `then` when the condition is truthy, otherwise `else`"

/-- The function that a name calls; capitals matter. -/
def ofName? (name : String) : Option Function :=
  all.find? fun f => f.name == name

/-- The mean of numbers, zero when there are none. -/
def mean (xs : List Number) : Number :=
  if xs = [] then .zero else Binary.sum xs / .ofNat xs.length

/-- The outcome of combining the numbers from the left, zero when there are none. -/
def best (better : Number → Number → Number) : List Number → Number
  | [] => .zero
  | x :: xs => xs.foldl better x

variable (cells : Snapshot)

/-- The outcome of a call. -/
def apply (f : Function) (args : List Argument) : Value :=
  let numbers := args.flatMap (Argument.numbers cells)
  match f with
  | .sum => .number (Binary.sum numbers)
  | .average => .number (mean numbers)
  | .count => .number (.ofNat numbers.length)
  | .max => .number (best .maximum numbers)
  | .min => .number (best .minimum numbers)
  | .concatenate => .text (args.foldl (fun s arg => s ++ arg.joined cells) "")
  | .choose =>
    let condition := args.head?.any (Argument.isTrue cells)
    match if condition then args[1]? else args[2]? with
    | some branch => branch.asWritten
    | none => .text ""

end Function

end Formula

end Spreadsheet
