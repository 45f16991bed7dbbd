import Spreadsheet.Binary.Basic

/-!
# Cells of a sheet

A cell holds the text that it shows, the formula that gave that text, if there is one, and a
style, which no computation looks at.
-/

namespace Spreadsheet

/-- A font size. -/
abbrev FontSize := Binary Binary.Format.single

/-- How a cell looks. -/
structure Style where
  bold : Bool := false
  italic : Bool := false
  underline : Bool := false
  backgroundColor : Option String := none
  textColor : Option String := none
  fontSize : Option FontSize := none
  fontFamily : Option String := none
deriving DecidableEq

/-- A change of style; what is missing stays as it is. -/
structure StylePatch where
  bold : Option Bool := none
  italic : Option Bool := none
  underline : Option Bool := none
  backgroundColor : Option String := none
  textColor : Option String := none
  fontSize : Option FontSize := none
  fontFamily : Option String := none
deriving DecidableEq

/-- The style after a change. -/
def Style.patch (style : Style) (p : StylePatch) : Style where
  bold := p.bold.getD style.bold
  italic := p.italic.getD style.italic
  underline := p.underline.getD style.underline
  backgroundColor := p.backgroundColor.or style.backgroundColor
  textColor := p.textColor.or style.textColor
  fontSize := p.fontSize.or style.fontSize
  fontFamily := p.fontFamily.or style.fontFamily

/-- What a sheet stores at an address. -/
structure Cell where
  value : String := ""
  formula : Option String := none
  style : Option Style := none
deriving DecidableEq

/-- A cell that holds a text and nothing else. -/
def Cell.plain (value : String) : Cell :=
  { value }

/-- The cell with its style changed, from the default style when it has none. -/
def Cell.restyle (c : Cell) (p : StylePatch) : Cell :=
  { c with style := some ((c.style.getD {}).patch p) }

end Spreadsheet
