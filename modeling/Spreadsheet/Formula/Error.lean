import Spreadsheet.Formula.Token
import Spreadsheet.Grid.Range
import Spreadsheet.Text.Quoted

/-!
# Why formulas fail
-/

namespace Spreadsheet

namespace Formula

/-- The cause of a failed evaluation. -/
inductive Error where
  /-- No token starts at the character with this offset. -/
  | lexical (offset : Nat) (fault : LexicalFault)
  | unexpectedToken (found : Placed)
  | unknownFunction (name : String)
  /-- A name that no argument list follows. -/
  | unknownName (name : String)
  | nestedCall (name : String)
  /-- A range stands where a single value is needed. -/
  | rangeAsValue (range : Range)
  | notANumber (text : String)
  | notFinite
  | tooLong (limit : Nat)
  | tooDeep (limit : Nat)
  | rangeTooLarge (range : Range) (limit : Nat)
deriving DecidableEq

/-- The wording of an error. -/
def Error.message : Error → String
  | .lexical offset fault => s!"Syntax error at offset {offset}: " ++ fault.message
  | .unexpectedToken found =>
    "Unexpected token: " ++ found.token.display ++ s!" at offset {found.offset}"
  | .unknownFunction name => "Unknown function: " ++ name
  | .unknownName name => "Unknown name: " ++ name
  | .nestedCall name => "Nested call to " ++ name ++ " is not supported"
  | .rangeAsValue range => "Range " ++ range.text ++ " cannot be used as a value"
  | .notANumber text => "Not a number: " ++ Text.quoted text
  | .notFinite => "Result is not finite"
  | .tooLong limit => s!"Formula is longer than {limit} characters"
  | .tooDeep limit => s!"Formula nests deeper than {limit} levels"
  | .rangeTooLarge range limit => "Range " ++ range.text ++ s!" covers more than {limit} cells"

end Formula

end Spreadsheet
