import Spreadsheet.Proofs.Csv.RoundTrip
import Spreadsheet.Proofs.Sheet.Cells

/-!
# Importing an exported sheet

An exported sheet can always be imported again.  What comes back is a trimmed copy of what the sheet
showed, except in two cases: a line feed within a text moves whatever is shown in lower rows further
down, since the reader counts lines where the writer counted rows, and a byte-order mark at the very
start is lost.  `importCsv_exportCsv` says that these are the only exceptions.
-/

namespace Spreadsheet

namespace Sheet

open Csv (cellsOf feedsAbove rowsFrom)

/-- The first address of the grid. -/
def firstAddress : Address :=
  ⟨⟨1, by decide, by decide⟩, ⟨1, by decide, by decide⟩⟩

/-- The sheet holds the trimmed texts that another one shows, and no cells where these are empty. -/
def IsTrimmedCopyOf (restored s : Sheet) : Prop :=
  ∀ a, restored.cell? a =
    if Text.trim (s.display a) = "" then none else some (.plain (Text.trim (s.display a)))

/-- The first text starts with a byte-order mark and is written without quotes, so that the exported
text starts with the mark. -/
def StartsWithMark (s : Sheet) : Prop :=
  '\uFEFF' ∈ (s.display firstAddress).toList.head? ∧
    (s.display firstAddress).toList.any Csv.needsQuotes = false

/-- No line feed stands in a row above a text. -/
def NoTextBelowLineFeed (s : Sheet) : Prop :=
  ∀ a b : Address, a.row.val < b.row.val → '\n' ∈ (s.display a).toList →
    Text.trim (s.display b) = ""

/-! ## Cells of the table -/

/-- A text of which something is left without white space is not empty. -/
lemma display_ne_of_trim_ne {s : Sheet} {a : Address} (h : Text.trim (s.display a) ≠ "") :
    s.display a ≠ "" := by
  intro hempty
  exact h (by rw [hempty]; decide)

/-- A text that is written and read again moves down by the line feeds above it, and is trimmed. -/
lemma mem_cellsOf_table_iff {s : Sheet} {a : Address} {value : String} :
    (a, value) ∈ cellsOf (rowsFrom 0 s.table) ↔ value ≠ "" ∧ ∃ b : Address,
      b.column = a.column ∧ a.row.val = b.row.val + feedsAbove s.table (b.row.val - 1) ∧
        value = Text.trim (s.display b) := by
  rw [Csv.mem_cellsOf_iff]
  constructor
  · rintro ⟨hvalue, fields, hrow, field, hfield, rfl⟩
    obtain ⟨i, hi, hrow⟩ := Csv.mem_rowsFrom_iff.mp hrow
    obtain ⟨b, hbrow, hbcolumn, rfl⟩ := exists_display_of_table hi hfield
    have hpos := a.column.pos
    refine ⟨hvalue, b, Index.val_injective (by omega), ?_, rfl⟩
    rw [hrow, hbrow, Nat.add_sub_cancel]
    omega
  · rintro ⟨hvalue, b, hcolumn, hrow, rfl⟩
    obtain ⟨fields, hfields, hfield⟩ := getElem?_table (display_ne_of_trim_ne hvalue)
    have hpos := b.row.pos
    rw [hcolumn] at hfield
    exact ⟨hvalue, fields, Csv.mem_rowsFrom_iff.mpr ⟨_, hfields, by omega⟩, _, hfield, rfl⟩

/-- Nothing moves down behind rows without line feeds. -/
lemma feedsAbove_table_eq_zero_iff {s : Sheet} {i : Nat} :
    feedsAbove s.table i = 0 ↔ ∀ a : Address, a.row.val ≤ i → '\n' ∉ (s.display a).toList := by
  rw [feedsAbove, Csv.lineFeedsIn_eq_zero_iff]
  constructor
  · intro h a hrow hfeed
    have hne : s.display a ≠ "" := by
      intro hempty
      rw [hempty] at hfeed
      cases hfeed
    obtain ⟨fields, hfields, hfield⟩ := getElem?_table hne
    have hpos := a.row.pos
    have hlt : a.row.val - 1 < i := by omega
    rw [← List.getElem?_take_of_lt hlt] at hfields
    have hrow' : fields ∈ s.table.take i := List.mem_of_getElem? hfields
    have hmem : s.display a ∈ fields := List.mem_of_getElem? hfield
    exact h _ (List.mem_flatten_of_mem hrow' hmem) hfeed
  · intro h field hmem
    obtain ⟨fields, hfields, hfield⟩ := List.mem_flatten.mp hmem
    obtain ⟨k, hk⟩ := List.mem_iff_getElem?.mp hfields
    obtain ⟨j, hj⟩ := List.mem_iff_getElem?.mp hfield
    rw [List.getElem?_take] at hk
    split at hk
    case isTrue hki =>
      obtain ⟨a, hrow, -, rfl⟩ := exists_display_of_table hk hj
      exact h a (by omega)
    case isFalse => cases hk

/-- Texts lie below no line feed just when nothing moves them down. -/
lemma noTextBelowLineFeed_iff {s : Sheet} : s.NoTextBelowLineFeed ↔
    ∀ b, Text.trim (s.display b) ≠ "" → feedsAbove s.table (b.row.val - 1) = 0 := by
  constructor
  · intro h b hb
    rw [feedsAbove_table_eq_zero_iff]
    intro a hrow hfeed
    have hpos := b.row.pos
    exact hb (h a b (by omega) hfeed)
  · intro h a b hrow hfeed
    by_contra hb
    exact feedsAbove_table_eq_zero_iff.mp (h b hb) a (by omega) hfeed

/-! ## Restored cells -/

section Restored

variable {s : Sheet} {cells : List (Address × String)} {clipboard : Option Clipboard}
  {limits : Limits}

/-- A copy was made from cells that hold every text of the sheet. -/
lemma IsTrimmedCopyOf.mem_cells (h : (putTexts ⟨∅, clipboard, limits⟩ cells).IsTrimmedCopyOf s)
    {a : Address} (ha : Text.trim (s.display a) ≠ "") : (a, Text.trim (s.display a)) ∈ cells := by
  have hcopy := h a
  rw [if_neg ha] at hcopy
  rcases cell?_putTexts ⟨∅, clipboard, limits⟩ cells a with ⟨value, hmem, hcell⟩ | ⟨-, hcell⟩
  · rw [hcell] at hcopy
    have hvalue : value = Text.trim (s.display a) :=
      congrArg Cell.value (Option.some.inj hcopy)
    rwa [hvalue] at hmem
  · rw [hcell] at hcopy
    cases hcopy

/-- Cells that hold the texts of the sheet and no others make a copy. -/
lemma isTrimmedCopyOf_putTexts
    (h : ∀ a value, (a, value) ∈ cells ↔ value ≠ "" ∧ value = Text.trim (s.display a)) :
    (putTexts ⟨∅, clipboard, limits⟩ cells).IsTrimmedCopyOf s := by
  intro a
  rcases cell?_putTexts ⟨∅, clipboard, limits⟩ cells a with ⟨value, hmem, hcell⟩ | ⟨hnone, hcell⟩
  · obtain ⟨hne, rfl⟩ := (h a value).mp hmem
    rw [hcell, if_neg hne]
  · have hempty : Text.trim (s.display a) = "" := by
      by_contra hne
      exact hnone _ ((h a _).mpr ⟨hne, rfl⟩)
    rw [hcell, if_pos hempty]
    rfl

/-- The cells of the table make a copy just when no text moves down. -/
theorem isTrimmedCopyOf_table_iff :
    (putTexts ⟨∅, clipboard, limits⟩ (cellsOf (rowsFrom 0 s.table))).IsTrimmedCopyOf s ↔
      s.NoTextBelowLineFeed := by
  rw [noTextBelowLineFeed_iff]
  constructor
  · -- By induction on rows: were the text at `b` moved, then the text found at its place would
    -- come from a row above, and so from its own place.
    intro hcopy
    have hrows : ∀ n, ∀ b : Address, b.row.val = n → Text.trim (s.display b) ≠ "" →
        feedsAbove s.table (b.row.val - 1) = 0 := by
      intro n
      induction n using Nat.strongRecOn with
      | ind n ih =>
        intro b hn hb
        obtain ⟨-, b', -, hrow, htext⟩ := mem_cellsOf_table_iff.mp (hcopy.mem_cells hb)
        by_cases hlt : b'.row.val < b.row.val
        · have hzero := ih b'.row.val (by omega) b' rfl (by rwa [← htext])
          omega
        · have hsame : b'.row.val = b.row.val := by omega
          rw [hsame] at hrow
          omega
    exact fun b => hrows _ b rfl
  · intro hzero
    apply isTrimmedCopyOf_putTexts
    intro a value
    rw [mem_cellsOf_table_iff]
    constructor
    · rintro ⟨hvalue, b, hcolumn, hrow, rfl⟩
      rw [hzero b hvalue, Nat.add_zero] at hrow
      rw [Address.eq_of_val_eq hrow (congrArg Index.val hcolumn.symm)]
      exact ⟨hvalue, rfl⟩
    · rintro ⟨hvalue, rfl⟩
      exact ⟨hvalue, a, rfl, by rw [hzero a hvalue, Nat.add_zero], rfl⟩

/-! ## Byte-order marks -/

/-- The first text that is shown stands first in the table. -/
lemma exists_table_eq_cons (h : s.display firstAddress ≠ "") :
    ∃ fs table, s.table = (s.display firstAddress :: fs) :: table := by
  obtain ⟨fields, hfields, hfield⟩ := getElem?_table h
  cases htable : s.table with
  | nil =>
    rw [htable] at hfields
    cases hfields
  | cons first table =>
    rw [htable] at hfields
    obtain rfl : first = fields := Option.some.inj hfields
    cases first with
    | nil => cases hfield
    | cons f fs => exact ⟨fs, table, by rw [← Option.some.inj hfield]⟩

/-- The first field of the table is what the first cell shows. -/
lemma display_firstAddress_of_table {f : String} {fs : List String} {table : List (List String)}
    (h : s.table = (f :: fs) :: table) : f = s.display firstAddress := by
  have hfields : s.table[0]? = some (f :: fs) := by rw [h]; rfl
  obtain ⟨a, hrow, hcolumn, rfl⟩ := exists_display_of_table hfields (j := 0) rfl
  rw [Address.eq_of_val_eq (a := a) (b := firstAddress) hrow hcolumn]

/-- The exported text starts with a byte-order mark exactly when the first cell shows one and needs
no quotes. -/
lemma byteOrderMark_mem_head?_write_table_iff :
    '\uFEFF' ∈ (Csv.write s.table).toList.head? ↔ s.StartsWithMark := by
  cases htable : s.table with
  | nil =>
    constructor
    · intro h
      cases h
    · rintro ⟨hhead, -⟩
      have hne : s.display firstAddress ≠ "" := by
        intro hempty
        rw [hempty] at hhead
        cases hhead
      obtain ⟨fs, table, hcons⟩ := exists_table_eq_cons hne
      rw [htable] at hcons
      cases hcons
  | cons fields table =>
    have hmem : fields ∈ s.table := by rw [htable]; exact List.mem_cons_self
    obtain ⟨f, fs, rfl⟩ := List.exists_cons_of_ne_nil (ne_nil_of_mem_table hmem)
    rw [Csv.byteOrderMark_mem_head?_write_iff, display_firstAddress_of_table htable]
    rfl

/-- A byte-order mark is no white space, so that something is left of a text with one. -/
lemma trim_ne_empty_of_mark {a : Address} (h : '\uFEFF' ∈ (s.display a).toList) :
    Text.trim (s.display a) ≠ "" :=
  Text.trim_ne_empty h (by decide)

/-- A first text that loses its byte-order mark is no longer the same. -/
lemma not_isTrimmedCopyOf_of_mark_dropped {cs : List Char} {fs : List String}
    {table : List (List String)} (h : s.display firstAddress = String.ofList ('\uFEFF' :: cs)) :
    ¬(putTexts ⟨∅, clipboard, limits⟩
      (cellsOf (rowsFrom 0 ((String.ofList cs :: fs) :: table)))).IsTrimmedCopyOf s := by
  intro hcopy
  have hfirst := hcopy.mem_cells (a := firstAddress) (trim_ne_empty_of_mark (by simp [h]))
  obtain ⟨-, fields, hmem, field, hfield, htext⟩ := Csv.mem_cellsOf_iff.mp hfirst
  obtain ⟨i, hi, hrow⟩ := Csv.mem_rowsFrom_iff.mp hmem
  have hone : firstAddress.row.val = 1 := rfl
  obtain rfl : i = 0 := by omega
  obtain rfl : String.ofList cs :: fs = fields := Option.some.inj hi
  obtain rfl : String.ofList cs = field := Option.some.inj hfield
  rw [h] at htext
  exact Text.trim_cons_ne (by decide) cs htext

/-- When a byte-order mark is all that the first row shows, the second row takes its place. -/
lemma not_isTrimmedCopyOf_of_mark_alone {g : String} {gs : List String}
    {table : List (List String)} {feeds : Nat} (h : s.display firstAddress = "\uFEFF")
    (htable : s.table[1]? = some (g :: gs)) :
    ¬(putTexts ⟨∅, clipboard, limits⟩
      (cellsOf ((1, g :: gs) :: rowsFrom (feeds + 2) table))).IsTrimmedCopyOf s := by
  intro hcopy
  have hrows : ∀ {a : Address} {fields : List String},
      (a.row.val, fields) ∈ (1, g :: gs) :: rowsFrom (feeds + 2) table →
        a.row.val = 1 ∧ fields = g :: gs ∨ 2 < a.row.val := by
    intro a fields hmem
    rcases List.mem_cons.mp hmem with heq | hmem
    · exact .inl (Prod.mk.inj heq)
    · obtain ⟨i, -, hrow⟩ := Csv.mem_rowsFrom_iff.mp hmem
      exact .inr (by omega)
  have hfirst := hcopy.mem_cells (a := firstAddress) (trim_ne_empty_of_mark (by simp [h]))
  obtain ⟨hne, fields, hmem, field, hfield, htext⟩ := Csv.mem_cellsOf_iff.mp hfirst
  have hone : firstAddress.row.val = 1 := rfl
  rcases hrows hmem with ⟨-, rfl⟩ | hlt
  · obtain rfl : g = field := Option.some.inj hfield
    obtain ⟨b, hrow, -, rfl⟩ := exists_display_of_table htable (j := 0) rfl
    rw [htext] at hne
    obtain ⟨-, fields, hmem, -⟩ := Csv.mem_cellsOf_iff.mp (hcopy.mem_cells hne)
    rcases hrows hmem with ⟨hb, -⟩ | hb
    · omega
    · omega
  · omega

variable (clipboard limits) in
/-- A byte-order mark at the start of the exported text is lost. -/
theorem not_isTrimmedCopyOf_of_startsWithMark (h : s.StartsWithMark) : ∃ cells,
    Csv.read (Text.Utf8.encode s.exportCsv) = .ok cells ∧
      ¬(putTexts ⟨∅, clipboard, limits⟩ cells).IsTrimmedCopyOf s := by
  obtain ⟨hhead, hneeds⟩ := h
  obtain ⟨cs, hcs⟩ := List.head?_eq_some_iff.mp hhead
  have hfirst : s.display firstAddress = String.ofList ('\uFEFF' :: cs) := by
    rw [← hcs, String.ofList_toList]
  have hne : s.display firstAddress ≠ "" := by
    intro hempty
    rw [hempty] at hcs
    cases hcs
  obtain ⟨fs, table, htable⟩ := exists_table_eq_cons hne
  have hrows : ∀ fields ∈ table, fields ≠ [] :=
    fun fields hmem => ne_nil_of_mem_table (by rw [htable]; exact List.mem_cons_of_mem _ hmem)
  rw [hcs] at hneeds
  rw [exportCsv, htable, hfirst]
  by_cases hrest : cs = [] ∧ fs = []
  · obtain ⟨rfl, rfl⟩ := hrest
    cases table with
    | nil =>
      refine ⟨[], Csv.read_write_mark_only, fun hcopy => ?_⟩
      have hmem := hcopy.mem_cells (a := firstAddress) (trim_ne_empty_of_mark (by simp [hcs]))
      cases hmem
    | cons second table =>
      obtain ⟨g, gs, rfl⟩ := List.exists_cons_of_ne_nil (hrows second List.mem_cons_self)
      refine ⟨_, Csv.read_write_mark fun fields hmem => hrows fields (List.mem_cons_of_mem _ hmem),
        not_isTrimmedCopyOf_of_mark_alone hfirst (by rw [htable]; rfl)⟩
  · exact ⟨_, Csv.read_write_marked hneeds hrest hrows, not_isTrimmedCopyOf_of_mark_dropped hfirst⟩

end Restored

/-! ## The round trip -/

/-- An exported sheet is always imported again, and it comes back as it was shown, trimmed, exactly
when the exported text starts with no byte-order mark and no text is shown below a line feed. -/
theorem importCsv_exportCsv (s : Sheet) (clipboard : Option Clipboard) (limits : Limits) :
    ∃ restored count,
      importCsv ⟨∅, clipboard, limits⟩ (Text.Utf8.encode s.exportCsv) = .ok (restored, count) ∧
        (restored.IsTrimmedCopyOf s ↔ ¬s.StartsWithMark ∧ s.NoTextBelowLineFeed) := by
  by_cases hmark : s.StartsWithMark
  · obtain ⟨cells, hread, hcopy⟩ :=
      not_isTrimmedCopyOf_of_startsWithMark clipboard limits hmark
    refine ⟨putTexts ⟨∅, clipboard, limits⟩ cells, cells.length, ?_, ?_⟩
    · rw [importCsv, hread]
      rfl
    · exact iff_of_false hcopy fun h => h.1 hmark
  · have hread : Csv.read (Text.Utf8.encode s.exportCsv) = .ok (cellsOf (rowsFrom 0 s.table)) :=
      Csv.read_write (fun fields hmem => ne_nil_of_mem_table hmem)
        fun h => hmark (byteOrderMark_mem_head?_write_table_iff.mp h)
    refine ⟨_, _, by rw [importCsv, hread]; rfl, ?_⟩
    rw [isTrimmedCopyOf_table_iff]
    exact (and_iff_right hmark).symm

/-- Two texts, the upper one with a line feed. -/
def textBelowLineFeed : Sheet :=
  putTexts {} [(firstAddress, "a\nb"), (⟨⟨2, by decide, by decide⟩, firstAddress.column⟩, "c")]

/-- The lower text comes back one row further down. -/
theorem not_isTrimmedCopyOf_textBelowLineFeed : ∃ restored,
    importCsv {} (Text.Utf8.encode textBelowLineFeed.exportCsv) = .ok (restored, 2) ∧
      restored.display ⟨⟨3, by decide, by decide⟩, firstAddress.column⟩ = "c" ∧
      ¬restored.IsTrimmedCopyOf textBelowLineFeed := by
  have hread : Csv.read (Text.Utf8.encode textBelowLineFeed.exportCsv) =
      .ok [(firstAddress, "a\nb"), (⟨⟨3, by decide, by decide⟩, firstAddress.column⟩, "c")] := by
    decide +kernel
  refine ⟨_, by rw [importCsv, hread]; rfl, by decide +kernel, fun hcopy => ?_⟩
  have hlower := hcopy ⟨⟨2, by decide, by decide⟩, firstAddress.column⟩
  revert hlower
  decide +kernel

end Sheet

end Spreadsheet
