import Spreadsheet.Binary.Shortest
import Spreadsheet.Text.Blank

/-!
# Numbers in cells

A cell text is numeric when, trimmed, it names a finite number. A number is shown by the shortest
decimal that reads back, without an exponent, and both zeros are shown as `0`.
-/

namespace Spreadsheet

namespace Number

/-- The number of a numeric cell text. -/
def ofCellText? (s : String) : Option Number :=
  (Binary.read? (Text.trimChars s.toList)).filter Binary.isFinite

end Number

/-- The text that shows a number. -/
def Binary.display (n : Number) : String :=
  if n.isZero then "0" else n.text

end Spreadsheet
