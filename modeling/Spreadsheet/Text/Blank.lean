import Spreadsheet.Text.CodeRange

/-!
# Blank characters and trimming

A text is blank when it holds white space only, and trimming takes the white space off both ends.
White space is the Unicode property `White_Space`, twenty-five characters.
-/

namespace Spreadsheet.Text

/-- The white-space characters, as closed intervals of code points in increasing order. -/
def blankRanges : List CodeRange := [
    (0x9, 0xD), (0x20, 0x20), (0x85, 0x85), (0xA0, 0xA0), (0x1680, 0x1680), (0x2000, 0x200A),
    (0x2028, 0x2029), (0x202F, 0x202F), (0x205F, 0x205F), (0x3000, 0x3000)]

/-- A white-space character. -/
def isBlankChar (c : Char) : Bool :=
  CodeRange.covers blankRanges c

/-- The characters without the white space at their end. -/
def trimEnd (cs : List Char) : List Char :=
  (cs.reverse.dropWhile isBlankChar).reverse

/-- The characters without the white space at either end. -/
def trimChars (cs : List Char) : List Char :=
  trimEnd (cs.dropWhile isBlankChar)

/-- The text without the white space at either end. -/
def trim (s : String) : String :=
  String.ofList (trimChars s.toList)

/-- A text is blank when it is empty or all white space. -/
def isBlank (s : String) : Bool :=
  s.toList.all isBlankChar

@[simp] theorem trimChars_nil : trimChars [] = [] := rfl

@[simp] theorem toList_trim (s : String) : (trim s).toList = trimChars s.toList := by
  simp [trim]

/-- Dropping characters of a kind leaves all characters of this kind if there were only such. -/
theorem all_dropWhile {p : Char → Bool} {cs : List Char} :
    (cs.dropWhile p).all p = cs.all p := by
  induction cs with
  | nil => rfl
  | cons c cs ih => by_cases h : p c <;> simp [h, ih]

/-- Everything is dropped exactly when all characters are of the kind. -/
theorem dropWhile_eq_nil_iff {p : Char → Bool} {cs : List Char} :
    cs.dropWhile p = [] ↔ cs.all p := by
  induction cs with
  | nil => simp
  | cons c cs ih => by_cases h : p c <;> simp [h, ih]

/-- Trimming leaves nothing exactly of a blank text. -/
theorem trimChars_eq_nil_iff {cs : List Char} : trimChars cs = [] ↔ cs.all isBlankChar := by
  rw [← all_dropWhile, trimChars, trimEnd, List.reverse_eq_nil_iff, dropWhile_eq_nil_iff,
    List.all_reverse]

end Spreadsheet.Text
