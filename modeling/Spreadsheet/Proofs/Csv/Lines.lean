import Spreadsheet.Proofs.Csv.Cells
import Spreadsheet.Proofs.Csv.Search
import Spreadsheet.Proofs.Grid.Enumeration

/-!
# The lines of records

A record is read in its row, each of its texts in the column of its field (`Standing.Shows`).  The
row is the line that the record starts on, however the lines before it end and whatever they hold,
except that line feeds between a byte-order mark and the first record are not counted
(`read_lines`).
-/

namespace Spreadsheet

namespace Csv

open Text.Utf8

namespace Standing

/-- Read in a row, the record shows a value at an address: one of its texts, trimmed and not empty,
in the column of its field. -/
def Shows (st : Standing) (row : Nat) (a : Address) (value : String) : Prop :=
  a.row.val = row ∧ value ≠ "" ∧ ∃ i text, st.fields[i]? = some (encode text) ∧
    a.column.val = i + 1 ∧ value = Text.trim text

/-- The fields of the record as texts. -/
def texts (st : Standing) : List String :=
  st.fields.map fun field => (decode field).toOption.getD ""

/-- Fields that write texts are decoded to these texts. -/
lemma texts_eq {st : Standing} {fields : List String} (h : st.fields = fields.map encode) :
    st.texts = fields := by
  rw [texts, h, List.map_map]
  refine (List.map_congr_left fun text _ => ?_).trans (List.map_id fields)
  rw [Function.comp_apply, decode_encode]
  rfl

/-- A record puts into its row just the cells that it shows there. -/
lemma mem_rowCells_texts_iff {st : Standing} (h : st.fields = st.texts.map encode) {row : Nat}
    {a : Address} {value : String} : (a, value) ∈ rowCells row st.texts ↔ st.Shows row a value := by
  have hfield : ∀ (i : Nat) (text : String),
      st.fields[i]? = some (encode text) ↔ st.texts[i]? = some text := by
    intro i text
    rw [h, List.getElem?_map, Option.map_eq_some_iff]
    simp [encode_inj]
  have hpos := a.column.pos
  rw [mem_rowCells_iff, Shows]
  simp only [hfield]
  constructor
  · rintro ⟨hrow, hvalue, text, htext, rfl⟩
    exact ⟨hrow, hvalue, a.column.val - 1, text, htext, by omega, rfl⟩
  · rintro ⟨hrow, hvalue, i, text, htext, hcolumn, rfl⟩
    exact ⟨hrow, hvalue, text, by rw [hcolumn]; exact htext, rfl⟩

end Standing

variable {bytes : List UInt8} {found : List Standing} {cells : List (Address × String)}

/-- Bytes are read when all fields of the layout are texts, and they give the cells of these. -/
lemma LaidOut.read_eq_ok_iff (h : LaidOut bytes found) : read bytes = .ok cells ↔
    (∀ st ∈ found, st.fields = st.texts.map encode) ∧
      cells = found.flatMap fun st => rowCells st.row st.texts := by
  have hrows : ∀ rows : List (Nat × List String),
      found.map (fun st => (st.row, st.fields)) = rows.map encodeRow ↔
        (∀ st ∈ found, st.fields = st.texts.map encode) ∧
          rows = found.map fun st => (st.row, st.texts) := by
    clear h
    induction found with
    | nil => simp [eq_comm]
    | cons st found ih =>
      intro rows
      rw [List.map_cons, List.forall_mem_cons]
      constructor
      · intro h
        obtain ⟨⟨row, fields⟩, rows, rfl, hst, hrest⟩ := List.map_eq_cons_iff.mp h.symm
        obtain ⟨rfl, hfields⟩ := Prod.mk.inj hst
        obtain ⟨htexts, rfl⟩ := (ih rows).mp hrest.symm
        have hst := Standing.texts_eq hfields.symm
        exact ⟨⟨by rw [hst, hfields], htexts⟩, by rw [List.map_cons, hst]⟩
      · rintro ⟨⟨hst, htexts⟩, rfl⟩
        rw [List.map_cons, List.map_cons, ← (ih _).mpr ⟨htexts, rfl⟩, encodeRow, ← hst]
  rw [Csv.read_eq_ok_iff, h.map_records]
  simp only [hrows]
  constructor
  · rintro ⟨rows, ⟨htexts, rfl⟩, rfl⟩
    exact ⟨htexts, by rw [cellsOf, List.flatMap_map]⟩
  · rintro ⟨htexts, rfl⟩
    refine ⟨_, ⟨htexts, rfl⟩, ?_⟩
    rw [cellsOf, List.flatMap_map]

/-- The cells that are read are those that the records show in their rows. -/
lemma LaidOut.mem_cells_iff (h : LaidOut bytes found) (hread : read bytes = .ok cells) (a : Address)
    (value : String) : (a, value) ∈ cells ↔ ∃ st ∈ found, st.Shows st.row a value := by
  obtain ⟨htexts, rfl⟩ := h.read_eq_ok_iff.mp hread
  rw [List.mem_flatMap]
  exact exists_congr fun st => and_congr_right fun hst =>
    Standing.mem_rowCells_texts_iff (htexts st hst)

/-- The row of every record is counted from where its search began. -/
lemma LaidOut.row_eq (h : LaidOut bytes found) :
    ∀ r ∈ records bytes, r.row = r.countedRow bytes := by
  rw [← List.map_inj_left, h.map_eq fun _ _ hfinds => hfinds.row,
    h.map_eq fun _ _ hfinds => hfinds.row_eq.symm.trans hfinds.row]

/-- Each cell that is read is a field of a record in the layout of the bytes, which is the only one.
It lies in the column of the field and in the row of the record, found from where the search for
the record began: the line that its first byte is on, unless line feeds stand between a byte-order
mark and the first record. -/
theorem read_lines (hread : read bytes = .ok cells) :
    ∃ found, (∀ other, LaidOut bytes other ↔ other = found) ∧
      (∀ r ∈ records bytes, r.row = r.countedRow bytes) ∧
      (∀ a value, (a, value) ∈ cells ↔ ∃ st ∈ found, st.Shows st.row a value) ∧
      ((∀ st ∈ found, onlyMark st.before = true → lineFeed ∉ st.before) →
        ∀ a value, (a, value) ∈ cells ↔ ∃ st ∈ found, st.Shows st.line a value) := by
  have h : LaidOut bytes ((records bytes).map fun r => ⟨r.before bytes, r.fields⟩) :=
    laidOut_iff.mpr rfl
  refine ⟨_, fun _ => laidOut_iff, h.row_eq, h.mem_cells_iff hread, ?_⟩
  intro hmark a value
  rw [h.mem_cells_iff hread]
  refine exists_congr fun st => and_congr_right fun hst => ?_
  rw [Standing.row_eq_line (hmark st hst)]

/-- Behind a byte-order mark, a blank line and a line feed within quotes the records lie on their
lines. -/
theorem read_lines_blankLine : ∃ cells found,
    read (encode "\uFEFFa\r\n\r\n\"b\nc\"\r\nd") = .ok cells ∧
      LaidOut (encode "\uFEFFa\r\n\r\n\"b\nc\"\r\nd") found ∧
      found.map Standing.line = [1, 3, 5] ∧ cells.map (fun cell => cell.1.row.val) = [1, 3, 5] ∧
      ∀ a value, (a, value) ∈ cells ↔ ∃ st ∈ found, st.Shows st.line a value := by
  have hread : read (encode "\uFEFFa\r\n\r\n\"b\nc\"\r\nd") =
      .ok [(⟨⟨1, by decide, by decide⟩, ⟨1, by decide, by decide⟩⟩, "a"),
        (⟨⟨3, by decide, by decide⟩, ⟨1, by decide, by decide⟩⟩, "b\nc"),
        (⟨⟨5, by decide, by decide⟩, ⟨1, by decide, by decide⟩⟩, "d")] := by
    decide +kernel
  obtain ⟨found, hfound, -, -, hcells⟩ := read_lines hread
  have hlaid := (hfound found).mpr rfl
  refine ⟨_, found, hread, hlaid, ?_, rfl, hcells ?_⟩
  · rw [laidOut_iff.mp hlaid]
    decide +kernel
  · rw [laidOut_iff.mp hlaid]
    decide +kernel

/-- A line feed between a byte-order mark and the first record is not counted: the record starts on
the second line and lies in the first row. -/
theorem not_shows_lineFeed_behind_mark :
    LaidOut (byteOrderMark ++ [lineFeed, 97]) [⟨byteOrderMark ++ [lineFeed], [[97]]⟩] ∧
      read (byteOrderMark ++ [lineFeed, 97]) =
        .ok [(⟨⟨1, by decide, by decide⟩, ⟨1, by decide, by decide⟩⟩, "a")] ∧
      ¬∃ st ∈ [(⟨byteOrderMark ++ [lineFeed], [[97]]⟩ : Standing)], st.Shows st.line
        ⟨⟨1, by decide, by decide⟩, ⟨1, by decide, by decide⟩⟩ "a" := by
  refine ⟨?_, by decide +kernel, ?_⟩
  · rw [laidOut_iff]
    decide +kernel
  · rintro ⟨st, hst, hrow, -⟩
    obtain rfl := List.mem_singleton.mp hst
    revert hrow
    decide

/-! ## The order of cells -/

/-- If both records lie in one row, whatever the first one shows is left of whatever the second one
shows. -/
def Standing.Apart (p q : Standing) : Prop :=
  p.row = q.row → ∀ a value b value', p.Shows p.row a value → q.Shows q.row b value' →
    a.column.val < b.column.val

/-- Only carriage returns end lines between the records. -/
def Standing.SharesLine (p q : Standing) : Prop :=
  ∃ between, q.before = p.before ++ between ∧ lineFeed ∉ between ∧ carriageReturn ∈ between

/-- A record starts on a later line than one before it, unless only carriage returns end lines
between them. -/
lemma Standing.Precedes.line_lt_or {p q : Standing} (h : p.Precedes q) :
    p.line < q.line ∨ p.line = q.line ∧ p.SharesLine q := by
  obtain ⟨b, more, hbefore, -, c, hc, hbreak⟩ := h
  have hline : q.line = p.line + (b :: more).count lineFeed := by
    rw [line, line, hbefore, List.count_append, Nat.add_right_comm]
  by_cases hfeed : lineFeed ∈ b :: more
  · have hpos := List.count_pos_iff.mpr hfeed
    exact .inl (by omega)
  · have hnone := List.count_eq_zero.mpr hfeed
    refine .inr ⟨by omega, b :: more, hbefore, hfeed, ?_⟩
    have hreturn : c = carriageReturn := by
      rcases isLineBreak_iff.mp hbreak with rfl | rfl
      · exact absurd (List.mem_cons_of_mem b hc) hfeed
      · rfl
    exact hreturn ▸ List.mem_cons_of_mem b hc

/-- Rows never decrease from one record to the next, and they increase where lines do. -/
lemma LaidOut.pairwise_row (h : LaidOut bytes found) :
    found.Pairwise fun p q => p.row ≤ q.row ∧ (p.line < q.line → p.row < q.row) := by
  refine h.pairwise.imp ?_
  rintro p q ⟨hpq, hrow⟩
  have hle := p.row_le_line
  rcases hpq.line_lt_or with hline | ⟨hline, -⟩ <;> exact ⟨by omega, by omega⟩

section Order

variable (h : LaidOut bytes found) (hread : read bytes = .ok cells)
include h hread

/-- The rows of the cells that are read never decrease along the text. -/
lemma LaidOut.pairwise_le :
    (cells.map Prod.fst).Pairwise fun a b => a.row.val ≤ b.row.val := by
  obtain ⟨-, rfl⟩ := h.read_eq_ok_iff.mp hread
  rw [List.pairwise_map, List.pairwise_flatMap]
  constructor
  · intro st hst
    refine List.pairwise_of_forall_mem_list fun x hx y hy => Nat.le_of_eq ?_
    rw [(mem_rowCells_iff.mp hx).1, (mem_rowCells_iff.mp hy).1]
  · refine h.pairwise_row.imp fun hpq x hx y hy => ?_
    rw [(mem_rowCells_iff.mp hx).1, (mem_rowCells_iff.mp hy).1]
    exact hpq.1

/-- The addresses of the cells increase just when records in one row keep apart. -/
lemma LaidOut.pairwise_lt_iff : (cells.map Prod.fst).Pairwise (fun a b => compare a b = .lt) ↔
    found.Pairwise Standing.Apart := by
  obtain ⟨htexts, rfl⟩ := h.read_eq_ok_iff.mp hread
  have hwithin : ∀ st ∈ found, (rowCells st.row st.texts).Pairwise
      fun x y => compare x.1 y.1 = .lt := by
    intro st hst
    refine (pairwise_rowCells _ _).imp_of_mem fun hx hy hcolumn => ?_
    have hrow := (mem_rowCells_iff.mp hx).1.trans (mem_rowCells_iff.mp hy).1.symm
    exact Address.compare_eq_lt_iff.mpr (.inr ⟨Index.val_inj.mp hrow, hcolumn⟩)
  rw [List.pairwise_map, List.pairwise_flatMap, and_iff_right hwithin]
  constructor
  · refine fun hcells => hcells.imp_of_mem fun {p q} hp hq hpq hrow a value b value' ha hb => ?_
    have hlt := hpq _ ((Standing.mem_rowCells_texts_iff (htexts p hp)).mpr ha) _
      ((Standing.mem_rowCells_texts_iff (htexts q hq)).mpr hb)
    rcases Address.compare_eq_lt_iff.mp hlt with hlt | ⟨-, hlt⟩
    · rw [ha.1, hb.1, hrow] at hlt
      exact absurd hlt (Nat.lt_irrefl _)
    · exact hlt
  · refine fun happart => (happart.and h.pairwise_row).imp_of_mem ?_
    rintro p q hp hq ⟨hpq, hle, -⟩ ⟨a, value⟩ hx ⟨b, value'⟩ hy
    have ha := (Standing.mem_rowCells_texts_iff (htexts p hp)).mp hx
    have hb := (Standing.mem_rowCells_texts_iff (htexts q hq)).mp hy
    rw [Address.compare_eq_lt_iff, ha.1, hb.1, ← Index.val_inj, ha.1, hb.1]
    rcases Nat.lt_or_eq_of_le hle with hlt | hrow
    · exact .inl hlt
    · exact .inr ⟨hrow, hpq hrow a value b value' ha hb⟩

end Order

end Csv

end Spreadsheet
