import Spreadsheet.Json.Basic

/-!
# Writing JSON

Values are written without spaces. In a string only the quote, the backslash and the control
characters are escaped, with the short form where there is one.
-/

namespace Spreadsheet

namespace Json

/-- The hexadecimal digit of a number below sixteen. -/
def hexChar (d : Nat) : Char :=
  Nat.digitChar d

/-- The characters that write one character of a string. -/
def escape (c : Char) : List Char :=
  if c = '"' then ['\\', '"']
  else if c = '\\' then ['\\', '\\']
  else if c.toNat < 0x20 then
    if c = '\x08' then ['\\', 'b']
    else if c = '\x0c' then ['\\', 'f']
    else if c = '\n' then ['\\', 'n']
    else if c = '\r' then ['\\', 'r']
    else if c = '\t' then ['\\', 't']
    else ['\\', 'u', '0', '0', hexChar (c.toNat / 16), hexChar (c.toNat % 16)]
  else [c]

/-- A string in quotes. -/
def quote (s : String) : String :=
  String.ofList ('"' :: s.toList.flatMap escape ++ ['"'])

mutual

/-- A value after the text `before`. -/
def writeAfter (before : String) : Json → String
  | .null => before ++ "null"
  | .bool b => before ++ if b then "true" else "false"
  | .number written => before ++ written
  | .string content => before ++ quote content
  | .halfPair => before ++ "\"\\ufffd\""
  | .array items => writeItems (before ++ "[") true items ++ "]"
  | .object members => (writeMembers (before.push '\x7b') true members).push '\x7d'

/-- The items of an array after the text `before`, each but the first behind a comma. -/
def writeItems (before : String) (isFirst : Bool) : List Json → String
  | [] => before
  | item :: items =>
    let started := if isFirst then before else before ++ ","
    writeItems (writeAfter started item) false items

/-- The members of an object after the text `before`, each but the first behind a comma. -/
def writeMembers (before : String) (isFirst : Bool) : List (String × Json) → String
  | [] => before
  | (name, value) :: members =>
    let named := (if isFirst then before else before ++ ",") ++ quote name ++ ":"
    writeMembers (writeAfter named value) false members

end

/-- The text of a value. -/
def text (value : Json) : String :=
  writeAfter "" value

end Json

end Spreadsheet
