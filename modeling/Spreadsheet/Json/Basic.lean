/-!
# JSON values

A number keeps the characters it was written with, and an object keeps its members in order,
repeated names included, so that a reader of a value can judge both.
-/

namespace Spreadsheet

/-- A JSON value. -/
inductive Json where
  | null
  | bool (b : Bool)
  | number (written : String)
  | string (content : String)
  /-- A string whose escapes name half of a surrogate pair, which no text can hold, or an object
  with such a name. -/
  | halfPair
  | array (items : List Json)
  | object (members : List (String × Json))

namespace Json

/-- The last member of an object with a given name. -/
def member? (name : String) : Json → Option Json
  | .object members => (members.reverse.find? fun m => m.1 == name).map (·.2)
  | _ => none

/-- The content of a string. -/
def string? : Json → Option String
  | .string s => some s
  | _ => none

/-- A truth value. -/
def bool? : Json → Option Bool
  | .bool b => some b
  | _ => none

/-- The items of an array. -/
def items? : Json → Option (List Json)
  | .array items => some items
  | _ => none

/-- A natural number written with digits alone. -/
def nat? : Json → Option Nat
  | .number written =>
    if written.toList.all Char.isDigit then some (Nat.ofDigitChars 10 written.toList 0) else none
  | _ => none

/-- A natural number as a value. -/
def ofNat (n : Nat) : Json :=
  .number (toString n)

/-- A value that may be missing, with `null` for the missing one. -/
def orNull {α : Type} (encode : α → Json) : Option α → Json
  | some a => encode a
  | none => .null

end Json

end Spreadsheet
