import Spreadsheet.Proofs.Csv.Writing

/-!
# Reading back a written table

A written table is read as its records, each in the row of the line that it starts on
(`read_write`): a record moves down by the line feeds within the fields of the records before it.
The one exception is a table that happens to start with a byte-order mark, which is dropped
(`read_write_marked`); if nothing else stood on the first line, the next record takes row one
(`read_write_mark`).
-/

namespace Spreadsheet

namespace Csv

open Text.Utf8

/-- What holds a written table is read as its records, all but the first one in the rows of their
lines. -/
lemma read_eq_ok_of_laidOut {bs before : List UInt8} {fields : List String}
    {table : List (List String)} (hne : ∀ fields' ∈ fields :: table, fields' ≠ [])
    (h : LaidOut bs (standings before (fields :: table))) :
    read bs = .ok (cellsOf ((Standing.row ⟨before, fields.map encode⟩, fields) ::
      rowsFrom (before.count lineFeed + lineFeedsIn fields + 1) table)) := by
  refine read_eq_ok_iff.mpr ⟨_, ?_, rfl⟩
  have hrows : (standings (before ++ bytes (writeRecord fields).toList) table).map
      (fun st => (st.row, st.fields)) = (rowsFrom (before.count lineFeed + lineFeedsIn fields + 1)
        table).map encodeRow := by
    obtain ⟨hfields, htable⟩ := List.forall_mem_cons.mp hne
    obtain ⟨f, fs, rfl⟩ := List.exists_cons_of_ne_nil hfields
    have hlines := map_standings htable (before ++ bytes (writeRecord (f :: fs)).toList)
    rw [List.count_append, count_lineFeed_writeRecord, ← Nat.add_assoc] at hlines
    rw [← hlines]
    refine List.map_congr_left fun st hst => ?_
    rw [(List.rel_of_pairwise_cons h.pairwise hst).2]
  rw [h.map_records, standings, List.map_cons, List.map_cons, hrows]
  rfl

/-- A written table without a byte-order mark is read as its records. -/
theorem read_write {table : List (List String)} (hne : ∀ fields ∈ table, fields ≠ [])
    (hmark : '\uFEFF' ∉ (write table).toList.head?) :
    read (encode (write table)) = .ok (cellsOf (rowsFrom 0 table)) := by
  have hnot : byteOrderMark.isPrefixOf (bytes (write table).toList) = false :=
    Bool.eq_false_iff.mpr fun h => hmark (isPrefixOf_bytes_iff.mp h)
  have hlaid := (laidOut_iff_of_not_marked hnot).mpr (laid_write hne [])
  rw [encode_eq_bytes]
  match table with
  | [] => rfl
  | fields :: table =>
    rw [read_eq_ok_of_laidOut hne hlaid, rowsFrom]
    rfl

/-- A field in which nothing needs quotes is written as it stands. -/
lemma writeField_of_ordinary {f : String} (h : f.toList.any needsQuotes = false) :
    writeField f = f := by
  rw [writeField, h]
  rfl

/-- A record is written as its fields between commas and a line feed, unless it is a single empty
field. -/
lemma toList_writeRecord {f : String} {fs : List String} (h : ¬(f = "" ∧ fs = [])) :
    (writeRecord (f :: fs)).toList =
      (",".intercalate ((f :: fs).map writeField)).toList ++ ['\n'] := by
  have hline : ",".intercalate ((f :: fs).map writeField) ≠ "" :=
    fun hline => h (eq_of_line_eq_empty hline)
  rw [writeRecord]
  simp only [if_neg hline]
  rw [String.toList_append]
  rfl

section Marked

variable {cs : List Char} {fs : List String} {table : List (List String)}

/-- Without quotes a byte-order mark in the first field is the first character written. -/
lemma toList_write_marked (hcs : ('\uFEFF' :: cs).any needsQuotes = false)
    (hrest : ¬(cs = [] ∧ fs = [])) :
    (write ((String.ofList ('\uFEFF' :: cs) :: fs) :: table)).toList =
      '\uFEFF' :: (write ((String.ofList cs :: fs) :: table)).toList := by
  have hcs' : cs.any needsQuotes = false := by
    rw [List.any_cons, Bool.or_eq_false_iff] at hcs
    exact hcs.2
  have hrest' : ¬(String.ofList cs = "" ∧ fs = []) := by
    rwa [String.ofList_eq_empty_iff]
  have hmark : ¬(String.ofList ('\uFEFF' :: cs) = "" ∧ fs = []) := by
    rw [String.ofList_eq_empty_iff]
    rintro ⟨hnil, -⟩
    cases hnil
  have hfield : writeField (String.ofList ('\uFEFF' :: cs)) = String.ofList ('\uFEFF' :: cs) :=
    writeField_of_ordinary (by rwa [String.toList_ofList])
  have hfield' : writeField (String.ofList cs) = String.ofList cs :=
    writeField_of_ordinary (by rwa [String.toList_ofList])
  rw [toList_write, toList_write, List.flatMap_cons, List.flatMap_cons, toList_writeRecord hmark,
    toList_writeRecord hrest', List.map_cons, List.map_cons, hfield, hfield']
  cases fs <;> simp

/-- A field that starts with a byte-order mark loses it, if it is written first and without
quotes. -/
theorem read_write_marked (hcs : ('\uFEFF' :: cs).any needsQuotes = false)
    (hrest : ¬(cs = [] ∧ fs = [])) (hne : ∀ fields ∈ table, fields ≠ []) :
    read (encode (write ((String.ofList ('\uFEFF' :: cs) :: fs) :: table))) =
      .ok (cellsOf (rowsFrom 0 ((String.ofList cs :: fs) :: table))) := by
  have hne' : ∀ fields ∈ (String.ofList cs :: fs) :: table, fields ≠ [] :=
    List.forall_mem_cons.mpr ⟨List.cons_ne_nil _ _, hne⟩
  have hlaid := laidOut_byteOrderMark_append_iff.mpr (laid_write hne' byteOrderMark)
  rw [encode_eq_bytes, toList_write_marked hcs hrest, bytes_cons, bytes_char_byteOrderMark,
    read_eq_ok_of_laidOut hne' hlaid, rowsFrom]
  rfl

/-- A first line with nothing but a byte-order mark is blank. -/
lemma toList_write_mark (table : List (List String)) :
    (write (["\uFEFF"] :: table)).toList = '\uFEFF' :: '\n' :: (write table).toList := by
  have hrecord : (writeRecord ["\uFEFF"]).toList = ['\uFEFF', '\n'] := by decide
  rw [toList_write, toList_write, List.flatMap_cons, hrecord]
  rfl

/-- Behind a first line with nothing but a byte-order mark, the records stand as they would without
the mark, one line further down. -/
lemma laidOut_write_mark (hne : ∀ fields ∈ table, fields ≠ []) :
    LaidOut (encode (write (["\uFEFF"] :: table)))
      (standings (byteOrderMark ++ [lineFeed]) table) := by
  have hfeed : String.utf8EncodeChar '\n' = [lineFeed] := by decide
  rw [encode_eq_bytes, toList_write_mark, bytes_cons, bytes_cons, bytes_char_byteOrderMark, hfeed,
    List.singleton_append, laidOut_byteOrderMark_append_iff]
  exact .blank rfl (laid_write hne _)

/-- Behind a first line with nothing but a byte-order mark, the next record takes row one. -/
theorem read_write_mark {g : String} (hne : ∀ fields ∈ table, fields ≠ []) :
    read (encode (write (["\uFEFF"] :: (g :: fs) :: table))) =
      .ok (cellsOf ((1, g :: fs) :: rowsFrom (lineFeedsIn (g :: fs) + 2) table)) := by
  have hne' : ∀ fields ∈ (g :: fs) :: table, fields ≠ [] :=
    List.forall_mem_cons.mpr ⟨List.cons_ne_nil _ _, hne⟩
  have hfeeds : (byteOrderMark ++ [lineFeed]).count lineFeed + lineFeedsIn (g :: fs) + 1 =
      lineFeedsIn (g :: fs) + 2 := by
    have hone : (byteOrderMark ++ [lineFeed]).count lineFeed = 1 := by decide
    omega
  rw [read_eq_ok_of_laidOut hne' (laidOut_write_mark hne'), hfeeds]
  rfl

/-- A table whose one field is a byte-order mark comes back empty: what is written is the mark of a
text without records. -/
theorem read_write_mark_only : read (encode (write [["\uFEFF"]])) = .ok [] := by
  have hlaid : LaidOut (encode (write [["\uFEFF"]])) [] := laidOut_write_mark (by simp)
  exact read_eq_ok_iff.mpr ⟨[], hlaid.map_records, rfl⟩

end Marked

/-! ## The cells of a table -/

/-- The line feeds above a record of the table. -/
def feedsAbove (table : List (List String)) (i : Nat) : Nat :=
  lineFeedsIn (table.take i).flatten

/-- The line feeds above a record are those of the first record and those of the ones between. -/
lemma feedsAbove_succ (fields : List String) (table : List (List String)) (i : Nat) :
    feedsAbove (fields :: table) (i + 1) = lineFeedsIn fields + feedsAbove table i := by
  rw [feedsAbove, List.take_succ_cons, List.flatten_cons, lineFeedsIn_append, feedsAbove]

/-- A record moves down by the line feeds above it. -/
lemma mem_rowsFrom_iff {table : List (List String)} {feeds row : Nat} {fields : List String} :
    (row, fields) ∈ rowsFrom feeds table ↔
      ∃ i, table[i]? = some fields ∧ row = feeds + feedsAbove table i + i + 1 := by
  induction table generalizing feeds with
  | nil => simp [rowsFrom]
  | cons first table ih =>
    rw [rowsFrom, List.mem_cons, ih]
    constructor
    · rintro (h | ⟨i, hi, rfl⟩)
      · cases h
        exact ⟨0, rfl, rfl⟩
      · refine ⟨i + 1, hi, ?_⟩
        rw [feedsAbove_succ]
        omega
    · rintro ⟨i, hi, rfl⟩
      cases i with
      | zero =>
        left
        rw [Option.some.inj hi]
        rfl
      | succ i =>
        right
        refine ⟨i, hi, ?_⟩
        rw [feedsAbove_succ]
        omega

/-! ## Byte-order marks -/

/-- A written table starts with a byte-order mark just when its first field does and needs no
quotes. -/
lemma byteOrderMark_mem_head?_write_iff {f : String} {fs : List String}
    {table : List (List String)} : '\uFEFF' ∈ (write ((f :: fs) :: table)).toList.head? ↔
      '\uFEFF' ∈ f.toList.head? ∧ f.toList.any needsQuotes = false := by
  rw [toList_write, List.flatMap_cons]
  by_cases hempty : f = "" ∧ fs = []
  · obtain ⟨rfl, rfl⟩ := hempty
    have hrecord : (writeRecord [""]).toList = ['"', '"', '\n'] := by decide
    rw [hrecord]
    simp
  · rw [toList_writeRecord hempty]
    obtain ⟨c, cs, hcs⟩ : ∃ c cs,
        (",".intercalate ((f :: fs).map writeField)).toList = c :: cs := by
      apply List.exists_cons_of_ne_nil
      exact fun hnil => hempty (eq_of_line_eq_empty (String.toList_eq_nil_iff.mp hnil))
    rw [hcs]
    constructor
    · intro h
      obtain rfl : c = '\uFEFF' := Option.some.inj h
      have hhead : '\uFEFF' ∈ (",".intercalate ((f :: fs).map writeField)).toList.head? := by
        rw [hcs]
        rfl
      rcases head?_line hhead with hc | hc | hf
      · cases hc
      · cases hc
      · exact hf
    · rintro ⟨hhead, hneeds⟩
      have hfield : writeField f = f := writeField_of_ordinary hneeds
      have hline : ∃ more, (",".intercalate ((f :: fs).map writeField)).toList =
          f.toList ++ more := by
        cases fs with
        | nil => exact ⟨[], by simp [hfield]⟩
        | cons g gs => exact ⟨_, by simp [hfield]; rfl⟩
      obtain ⟨more, hmore⟩ := hline
      obtain ⟨ds, hf⟩ : ∃ ds, f.toList = '\uFEFF' :: ds := List.head?_eq_some_iff.mp hhead
      rw [hcs, hf] at hmore
      rw [(List.cons.inj hmore).1]
      rfl

end Csv

end Spreadsheet
