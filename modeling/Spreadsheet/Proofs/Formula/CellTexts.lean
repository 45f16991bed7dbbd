import Mathlib.Data.List.Basic
import Spreadsheet.Formula.Evaluation
import Spreadsheet.Proofs.Text.Characters

/-!
# What formulas read of the text of a cell

The text of a cell tells its content: a cell that is missing or holds only white space is blank
(`content_eq_blank_iff`), a numeric text is a number (`content_of_number`), and any other text is
seen as it stands (`content_of_text`).  These three cases exclude each other and leave nothing out
(`content_cases`).

Whatever a formula asks of a cell is told here from its text, for each of the three cases: whether a
reference to it is blank, its value as an operand, the text that it adds where it is joined, the
numbers that it gives to a function, and whether it counts as true.
-/

namespace Spreadsheet

/-- White space is no number: trimming leaves nothing that could be read as one. -/
lemma Number.ofCellText?_of_isBlank {s : String} (h : Text.isBlank s = true) :
    ofCellText? s = none := by
  have hempty : (Binary.read? [] : Option Number) = none := by decide +kernel
  rw [ofCellText?, Text.trimChars_eq_nil_iff.mpr h, hempty, Option.filter_none]

/-- A numeric text is not blank, so that the two classes of texts exclude each other. -/
lemma Number.not_isBlank_of_ofCellText? {s : String} {n : Number} (h : ofCellText? s = some n) :
    Text.isBlank s = false := by
  rw [Bool.eq_false_iff]
  intro hblank
  rw [ofCellText?_of_isBlank hblank] at h
  cases h

namespace Content

/-- A blank text is as good as none: both leave a formula a blank cell. -/
lemma ofCell_of_isBlank {s : String} (h : Text.isBlank s = true) :
    ofCell (some s) = ofCell none := by
  simp only [ofCell, ofText, if_pos h]

/-- A numeric text is seen as the number that it names, however it is spelled. -/
lemma ofCell_of_number {s : String} {n : Number} (h : Number.ofCellText? s = some n) :
    ofCell (some s) = .number n := by
  rw [ofCell, ofText, Number.not_isBlank_of_ofCellText? h, h]
  rfl

/-- A text that is neither white space nor numeric is seen as it stands. -/
lemma ofCell_of_text {s : String} (hblank : Text.isBlank s = false)
    (hnumber : Number.ofCellText? s = none) : ofCell (some s) = .text s := by
  rw [ofCell, ofText, hblank, hnumber]
  rfl

end Content

namespace Formula

variable {cells : Snapshot} {a : Address} {s : String} {n : Number}

/-! ## The content of a cell -/

/-- Blank are the cells that are missing and those of white space, and no others. -/
lemma content_eq_blank_iff : cells.content a = .blank ↔ (cells a).all Text.isBlank = true := by
  unfold Snapshot.content
  cases cells a with
  | none => exact iff_of_true rfl rfl
  | some s =>
    rw [Option.all_some, Content.ofCell, Content.ofText]
    split
    case isTrue h => exact iff_of_true rfl h
    case isFalse h =>
      refine iff_of_false ?_ h
      split <;> exact Content.noConfusion

/-- A cell whose text reads as a number has this number as its content, however it is spelled. -/
lemma content_of_number (hcell : cells a = some s) (h : Number.ofCellText? s = some n) :
    cells.content a = .number n := by
  rw [Snapshot.content, hcell, Content.ofCell_of_number h]

/-- A cell with any other text has this text as its content. -/
lemma content_of_text (hcell : cells a = some s) (hblank : Text.isBlank s = false)
    (hnumber : Number.ofCellText? s = none) : cells.content a = .text s := by
  rw [Snapshot.content, hcell, Content.ofCell_of_text hblank hnumber]

/-- Every cell is blank, numeric, or a text that is neither. -/
lemma content_cases (cells : Snapshot) (a : Address) : (cells a).all Text.isBlank = true ∨
    (∃ s n, cells a = some s ∧ Number.ofCellText? s = some n) ∨
      ∃ s, cells a = some s ∧ Text.isBlank s = false ∧ Number.ofCellText? s = none := by
  cases hcell : cells a with
  | none => exact .inl rfl
  | some s =>
    cases hblank : Text.isBlank s with
    | true => exact .inl hblank
    | false =>
      cases hnumber : Number.ofCellText? s with
      | some n => exact .inr (.inl ⟨s, n, rfl, hnumber⟩)
      | none => exact .inr (.inr ⟨s, rfl, hblank, hnumber⟩)

/-- The number of a cell is the one that its text names; a missing cell has none. -/
lemma number?_content : (cells.content a).number? = (cells a).bind Number.ofCellText? := by
  rcases content_cases cells a with hblank | ⟨s, n, hcell, hnumber⟩ | ⟨s, hcell, hblank, hnumber⟩
  · rw [content_eq_blank_iff.mpr hblank]
    cases hcell : cells a with
    | none => rfl
    | some s =>
      rw [hcell, Option.all_some] at hblank
      rw [Option.bind_some, Number.ofCellText?_of_isBlank hblank]
      rfl
  · rw [content_of_number hcell hnumber, hcell, Option.bind_some, hnumber]
    rfl
  · rw [content_of_text hcell hblank hnumber, hcell, Option.bind_some, hnumber]
    rfl

/-! ## Operands -/

/-- A reference is blank when its cell is missing or its text is white space. -/
lemma isBlankCell_cell (cells : Snapshot) (a : Address) :
    isBlankCell cells (.cell a) = (cells a).all Text.isBlank := by
  rw [isBlankCell, Bool.eq_iff_iff, decide_eq_true_iff, content_eq_blank_iff]

/-- A cell that is missing or of white space counts as zero. -/
lemma value_of_isBlank (h : (cells a).all Text.isBlank = true) :
    (cells.content a).value = .number .zero := by
  rw [content_eq_blank_iff.mpr h, Content.value]

/-- A cell whose text reads as a number has this number as its value in a formula. -/
lemma value_of_number (hcell : cells a = some s) (h : Number.ofCellText? s = some n) :
    (cells.content a).value = .number n := by
  rw [content_of_number hcell h, Content.value]

/-- Any other cell has its text as its value, with the white space around it. -/
lemma value_of_text (hcell : cells a = some s) (hblank : Text.isBlank s = false)
    (hnumber : Number.ofCellText? s = none) : (cells.content a).value = .text s := by
  rw [content_of_text hcell hblank hnumber, Content.value]

/-! ## Joined texts -/

/-- A cell that is missing or of white space adds nothing where it is joined. -/
lemma joined_of_isBlank (h : (cells a).all Text.isBlank = true) :
    (cells.content a).joined = "" := by
  rw [content_eq_blank_iff.mpr h, Content.joined]

/-- A numeric cell adds the text that shows its number, which need not be the text of the cell. -/
lemma joined_of_number (hcell : cells a = some s) (h : Number.ofCellText? s = some n) :
    (cells.content a).joined = n.display := by
  rw [content_of_number hcell h]
  rfl

/-- Any other cell adds its text, with the white space around it. -/
lemma joined_of_text (hcell : cells a = some s) (hblank : Text.isBlank s = false)
    (hnumber : Number.ofCellText? s = none) : (cells.content a).joined = s := by
  rw [content_of_text hcell hblank hnumber]
  rfl

/-! ## Arguments of functions -/

namespace Argument

/-- A cell gives a function the number that its text names, or nothing. -/
lemma numbers_cell (cells : Snapshot) (a : Address) :
    numbers cells (.cell a) = ((cells a).bind Number.ofCellText?).toList := by
  rw [numbers, number?_content]

/-- A range gives a function the numbers that the texts of its cells name, row by row. -/
lemma numbers_range (cells : Snapshot) (r : Range) :
    numbers cells (.range r) = r.cells.filterMap fun a => (cells a).bind Number.ofCellText? := by
  simp only [numbers, number?_content]

/-- A cell adds to a longer text as an argument what it adds where it is joined. -/
lemma joined_cell (cells : Snapshot) (a : Address) :
    joined cells (.cell a) = (cells.content a).joined := rfl

/-- A cell that is missing or of white space counts as false, like the number zero. -/
lemma isTrue_of_isBlank (h : (cells a).all Text.isBlank = true) :
    isTrue cells (.cell a) = false := by
  rw [isTrue, value_of_isBlank h]
  decide +kernel

/-- A numeric cell counts as true unless its number is a zero of either sign. -/
lemma isTrue_of_number (hcell : cells a = some s) (h : Number.ofCellText? s = some n) :
    isTrue cells (.cell a) = !n.isZero := by
  rw [isTrue, value_of_number hcell h]

/-- Any other cell counts as true: its text is not empty. -/
lemma isTrue_of_text (hcell : cells a = some s) (hblank : Text.isBlank s = false)
    (hnumber : Number.ofCellText? s = none) : isTrue cells (.cell a) = true := by
  rw [isTrue, value_of_text hcell hblank hnumber, bne_iff_ne]
  rintro rfl
  cases hblank

end Argument

end Formula

end Spreadsheet
