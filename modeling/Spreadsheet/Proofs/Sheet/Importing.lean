import Spreadsheet.Proofs.Csv.Lines
import Spreadsheet.Proofs.Sheet.Pasting

/-!
# Importing records

Imported cells come row by row.  Their addresses increase just when records in one row keep apart
from each other, and then nothing is lost: as many cells are written as are counted, and every text
is shown (`importCsv_lines`).  Records keep apart when each one starts on a line of its own, which
fails only behind a record that ends with a carriage return alone.
-/

namespace Spreadsheet

namespace Sheet

open Csv (LaidOut Standing)

variable {s next : Sheet} {bytes : List UInt8} {cells : List (Address × String)}
  {found : List Standing}

/-- Records are imported without loss: as many cells are written as are counted, and every text has
come to be shown. -/
structure Imported (s next : Sheet) (found : List Standing) (count : Nat) : Prop where
  written : ∃ written : List Address, written.Nodup ∧ written.length = count ∧
    (∀ a ∈ written, ∃ st ∈ found, ∃ value, st.Shows st.row a value ∧
      next.cell? a = some (.plain value)) ∧
    ∀ a ∉ written, next.cell? a = s.cell? a
  shown : ∀ st ∈ found, ∀ a value, st.Shows st.row a value → next.display a = value

/-- Of texts with distinct addresses every one is found afterwards. -/
lemma cell?_putTexts_of_mem (hnodup : (cells.map Prod.fst).Nodup) {a : Address} {value : String}
    (hmem : (a, value) ∈ cells) : (s.putTexts cells).cell? a = some (.plain value) := by
  rw [putTexts_eq_putAll]
  apply cell?_putAll_of_mem
  · rwa [List.map_map]
  · exact List.mem_map_of_mem hmem

/-- Cells at distinct addresses are imported without loss. -/
lemma imported_putTexts (h : LaidOut bytes found) (hread : Csv.read bytes = .ok cells)
    (hnodup : (cells.map Prod.fst).Nodup) :
    s.Imported (s.putTexts cells) found cells.length where
  written := by
    refine ⟨cells.map Prod.fst, hnodup, List.length_map _, ?_, ?_⟩
    · intro a ha
      obtain ⟨⟨a, value⟩, hmem, rfl⟩ := List.mem_map.mp ha
      obtain ⟨st, hst, hshows⟩ := (h.mem_cells_iff hread a value).mp hmem
      exact ⟨st, hst, value, hshows, cell?_putTexts_of_mem hnodup hmem⟩
    · intro a ha
      rcases s.cell?_putTexts cells a with ⟨value, hmem, -⟩ | ⟨-, hcell⟩
      · exact absurd (List.mem_map_of_mem hmem) ha
      · exact hcell
  shown := by
    intro st hst a value hshows
    have hmem := (h.mem_cells_iff hread a value).mpr ⟨st, hst, hshows⟩
    rw [display, cell?_putTexts_of_mem hnodup hmem]
    rfl

/-- Imported cells come row by row, each record of the layout of the bytes on the line of the one
before or further down; it is on the same line only if no line feed but a carriage return stands
between them.  The addresses increase just when records in one row keep apart, so in particular when
they start on different lines; then as many cells are written as are counted, and all texts are
shown. -/
theorem importCsv_lines (s : Sheet) (hread : Csv.read bytes = .ok cells) :
    ∃ found, (∀ other, LaidOut bytes other ↔ other = found) ∧
      (cells.map Prod.fst).Pairwise (fun a b => a.row.val ≤ b.row.val) ∧
      found.Pairwise (fun p q => p.line < q.line ∨ p.line = q.line ∧ p.SharesLine q) ∧
      ((cells.map Prod.fst).Pairwise (fun a b => compare a b = .lt) ↔
        found.Pairwise Standing.Apart) ∧
      (found.Pairwise (fun p q => p.line < q.line) → found.Pairwise Standing.Apart) ∧
      (found.Pairwise Standing.Apart → ∃ next,
        s.importCsv bytes = .ok (next, cells.length) ∧ s.Imported next found cells.length) := by
  have h : LaidOut bytes ((Csv.records bytes).map fun r => ⟨r.before bytes, r.fields⟩) :=
    Csv.laidOut_iff.mpr rfl
  refine ⟨_, fun _ => Csv.laidOut_iff, h.pairwise_le hread,
    h.pairwise.imp fun hpq => hpq.1.line_lt_or, h.pairwise_lt_iff hread, ?_, ?_⟩
  · intro hlines
    refine (hlines.and h.pairwise_row).imp ?_
    rintro p q ⟨hline, -, hlt⟩ hrow
    exact absurd hrow (Nat.ne_of_lt (hlt hline))
  · intro happart
    have hnodup : (cells.map Prod.fst).Nodup := by
      refine ((h.pairwise_lt_iff hread).mpr happart).imp ?_
      rintro a b hlt rfl
      rcases Address.compare_eq_lt_iff.mp hlt with hlt | ⟨-, hlt⟩ <;> exact Nat.lt_irrefl _ hlt
    exact ⟨s.putTexts cells, by rw [importCsv, hread]; rfl, imported_putTexts h hread hnodup⟩

/-- Behind a line feed within quotes and behind a blank line the records keep apart. -/
theorem importCsv_lines_blankLine : ∃ found next,
    LaidOut (Text.Utf8.encode "a\n\"b\nc\",d\r\n\ne") found ∧
      found.map Standing.line = [1, 2, 5] ∧
      importCsv {} (Text.Utf8.encode "a\n\"b\nc\",d\r\n\ne") = .ok (next, 4) ∧
      Imported {} next found 4 := by
  have hread : Csv.read (Text.Utf8.encode "a\n\"b\nc\",d\r\n\ne") =
      .ok [(⟨⟨1, by decide, by decide⟩, ⟨1, by decide, by decide⟩⟩, "a"),
        (⟨⟨2, by decide, by decide⟩, ⟨1, by decide, by decide⟩⟩, "b\nc"),
        (⟨⟨2, by decide, by decide⟩, ⟨2, by decide, by decide⟩⟩, "d"),
        (⟨⟨5, by decide, by decide⟩, ⟨1, by decide, by decide⟩⟩, "e")] := by
    decide +kernel
  obtain ⟨found, hfound, -, -, -, happart, himported⟩ := importCsv_lines {} hread
  have hlaid := (hfound found).mpr rfl
  have hlines : found.Pairwise fun p q => p.line < q.line := by
    rw [Csv.laidOut_iff.mp hlaid]
    decide +kernel
  obtain ⟨next, himport, hnext⟩ := himported (happart hlines)
  refine ⟨found, next, hlaid, ?_, himport, hnext⟩
  rw [Csv.laidOut_iff.mp hlaid]
  decide +kernel

/-- A carriage return alone ends a record but not its line, so that the next record is written over
it. -/
theorem importCsv_loneReturn : ∃ cells next,
    Csv.read (Text.Utf8.encode "a\rb") = .ok cells ∧ ¬(cells.map Prod.fst).Nodup ∧
      importCsv {} (Text.Utf8.encode "a\rb") = .ok (next, 2) ∧ next.toList.length = 1 ∧
      (⟨⟨1, by decide, by decide⟩, ⟨1, by decide, by decide⟩⟩, "a") ∈ cells ∧
      next.display ⟨⟨1, by decide, by decide⟩, ⟨1, by decide, by decide⟩⟩ = "b" := by
  have hread : Csv.read (Text.Utf8.encode "a\rb") =
      .ok [(⟨⟨1, by decide, by decide⟩, ⟨1, by decide, by decide⟩⟩, "a"),
        (⟨⟨1, by decide, by decide⟩, ⟨1, by decide, by decide⟩⟩, "b")] := by
    decide +kernel
  exact ⟨_, _, hread, by decide, by rw [importCsv, hread]; rfl, by decide +kernel, by simp,
    by decide +kernel⟩

end Sheet

end Spreadsheet
