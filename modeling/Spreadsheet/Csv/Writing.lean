/-!
# Writing comma-separated values

Fields are quoted only when they hold a comma, a quote or a line break, with inner quotes doubled.
Every record ends with a line feed, and a record of one empty field is written as two quotes, so
that it is not taken for an empty line.
-/

namespace Spreadsheet

namespace Csv

/-- A character that makes quotes necessary. -/
def needsQuotes (c : Char) : Bool :=
  c == ',' || c == '"' || c == '\r' || c == '\n'

/-- The characters of a field, in quotes. -/
def quotedField (cs : List Char) : List Char :=
  '"' :: cs.flatMap (fun c => if c = '"' then ['"', '"'] else [c]) ++ ['"']

/-- A field, in quotes when they are necessary. -/
def writeField (s : String) : String :=
  if s.toList.any needsQuotes then String.ofList (quotedField s.toList) else s

/-- A record with its end of line. -/
def writeRecord (fields : List String) : String :=
  let line := ",".intercalate (fields.map writeField)
  (if line = "" then "\"\"" else line) ++ "\n"

/-- A table of fields. -/
def write (table : List (List String)) : String :=
  table.foldl (fun s fields => s ++ writeRecord fields) ""

end Csv

end Spreadsheet
