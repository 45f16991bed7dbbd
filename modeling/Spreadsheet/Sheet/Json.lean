import Spreadsheet.Json.Number
import Spreadsheet.Json.Reading
import Spreadsheet.Json.Writing
import Spreadsheet.Sheet.Basic

/-!
# Cells as JSON

A cell is an object of its value, formula and style, a style an object of its attributes; what is
missing is left out. Both can also be given as arrays of their parts in the order of writing.
In an object each known name may occur once, and other names are passed over.
-/

namespace Spreadsheet

/-! ### Writing -/

/-- A style as a JSON value. -/
def Style.toJson (style : Style) : Json :=
  let optional (name : String) (value : Option Json) : List (String × Json) :=
    value.toList.map fun v => (name, v)
  .object <|
    [("bold", .bool style.bold), ("italic", .bool style.italic),
      ("underline", .bool style.underline)] ++
    optional "background_color" (style.backgroundColor.map .string) ++
    optional "text_color" (style.textColor.map .string) ++
    optional "font_size" (style.fontSize.map Json.ofBinary) ++
    optional "font_family" (style.fontFamily.map .string)

/-- A cell as a JSON value. -/
def Cell.toJson (c : Cell) : Json :=
  .object <|
    [("value", .string c.value)] ++
    c.formula.toList.map (fun f => ("formula", .string f)) ++
    c.style.toList.map (fun s => ("style", s.toJson))

/-- The stored cells of a sheet as JSON, row by row and without their addresses. -/
def Sheet.json (s : Sheet) : String :=
  (Json.array (s.toList.map fun (_, c) => c.toJson)).text

/-! ### Reading -/

namespace Json

/-- The parts of a structure by their names, from an object or from an array in the order of the
names. Nothing when a known name is repeated or the array is too long. -/
def parts? (names : List String) : Json → Option (List (String × Json))
  | .object members =>
    let known := members.filter fun (name, _) => names.contains name
    if (known.map (·.1)).Nodup then some known else none
  | .array items => if items.length ≤ names.length then some (names.zip items) else none
  | _ => none

/-- A part that may be missing or `null`. -/
def optional? {α : Type} (read : Json → Option α) (part : Option Json) : Option (Option α) :=
  match part with
  | none => some none
  | some .null => some none
  | some value => (read value).map some

/-- A part that has a default when it is missing. -/
def withDefault? {α : Type} (read : Json → Option α) (default : α) (part : Option Json) :
    Option α :=
  match part with
  | none => some default
  | some value => read value

/-- A number in the format of font sizes. -/
def fontSize? : Json → Option FontSize
  | .number written => readNumber? written
  | _ => none

end Json

/-- The style that a JSON value gives. -/
def Style.ofJson? (value : Json) : Option Style := do
  let parts ← value.parts? ["bold", "italic", "underline", "background_color", "text_color",
    "font_size", "font_family"]
  return {
    bold := ← Json.withDefault? Json.bool? false (parts.lookup "bold")
    italic := ← Json.withDefault? Json.bool? false (parts.lookup "italic")
    underline := ← Json.withDefault? Json.bool? false (parts.lookup "underline")
    backgroundColor := ← Json.optional? Json.string? (parts.lookup "background_color")
    textColor := ← Json.optional? Json.string? (parts.lookup "text_color")
    fontSize := ← Json.optional? Json.fontSize? (parts.lookup "font_size")
    fontFamily := ← Json.optional? Json.string? (parts.lookup "font_family") }

/-- The cell that a JSON value gives. -/
def Cell.ofJson? (value : Json) : Option Cell := do
  let parts ← value.parts? ["value", "formula", "style"]
  return {
    value := ← (parts.lookup "value").bind Json.string?
    formula := ← Json.optional? Json.string? (parts.lookup "formula")
    style := ← Json.optional? Style.ofJson? (parts.lookup "style") }

/-- The cell that a JSON text gives. -/
def Cell.ofText? (s : String) : Option Cell :=
  (Json.ofText? s).bind Cell.ofJson?

end Spreadsheet
