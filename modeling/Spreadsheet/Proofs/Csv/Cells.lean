import Spreadsheet.Csv.Reading
import Spreadsheet.Proofs.Grid.AddressText
import Spreadsheet.Proofs.Outcomes

/-!
# The cells of records

Bytes are read when every field of every record is a text (`read_eq_ok_iff`), and then the cells are
those of the records in their rows (`cellsOf`): a text lies in the column of its field
(`mem_rowCells_iff`), and the columns of one record increase (`pairwise_rowCells`).
-/

namespace Spreadsheet

/-- Bytes are decoded to a text just when they are the encoding of this text. -/
lemma Text.Utf8.decode_eq_ok_iff {bs : List UInt8} {s : String} :
    decode bs = .ok s ↔ bs = encode s := by
  constructor
  · intro h
    rw [decode] at h
    split at h
    case h_1 text htext =>
      obtain rfl : text = s := Except.ok.inj h
      simp only [String.fromUTF8?, Option.dite_none_right_eq_some, Option.some.injEq] at htext
      obtain ⟨hvalid, rfl⟩ := htext
      rfl
    case h_2 => cases h
  · rintro rfl
    exact decode_encode s

/-- Different texts are written by different bytes. -/
lemma Text.Utf8.encode_inj {s t : String} : encode s = encode t ↔ s = t := by
  rw [← decode_eq_ok_iff, decode_encode, Except.ok.injEq]

namespace Csv

open Text.Utf8

/-- A record with the bytes of its fields. -/
def encodeRow (row : Nat × List String) : Nat × List (List UInt8) :=
  (row.1, row.2.map encode)

/-- The cells of records in their rows. -/
def cellsOf (rows : List (Nat × List String)) : List (Address × String) :=
  rows.flatMap fun row => rowCells row.1 row.2

/-! ## Reading -/

/-- The fields of a record are texts when their bytes are those of texts. -/
lemma texts_eq_ok_iff {number : Nat} {r : Record} {fields : List String} :
    texts number r = .ok fields ↔ r.fields = fields.map encode := by
  rw [texts]
  generalize 0 = k
  induction r.fields generalizing k fields with
  | nil => cases fields <;> simp [pure, Except.pure]
  | cons bs rest ih =>
    simp only [List.zipIdx_cons, List.mapM_cons, bind_eq_ok_iff, mapError_eq_ok_iff,
      decode_eq_ok_iff, ih]
    constructor
    · rintro ⟨f, rfl, fs, rfl, h⟩
      rw [← Except.ok.inj h]
      rfl
    · intro h
      obtain ⟨f, fs, rfl, rfl, rfl⟩ := List.map_eq_cons_iff.mp h.symm
      exact ⟨f, rfl, fs, rfl, rfl⟩

/-- Bytes are read when the fields of all records are texts, and they give the cells of these. -/
lemma read_eq_ok_iff {bs : List UInt8} {cells : List (Address × String)} :
    read bs = .ok cells ↔ ∃ rows : List (Nat × List String),
      (records bs).map (fun r => (r.row, r.fields)) = rows.map encodeRow ∧
        cells = cellsOf rows := by
  have hfrom : ∀ (rs : List Record) (k : Nat) (rows' : List (List (Address × String))),
      ((rs.zipIdx k).mapM fun p => return rowCells p.1.row (← texts p.2 p.1)) =
        (.ok rows' : Except Error _) ↔ ∃ rows : List (Nat × List String),
          rs.map (fun r => (r.row, r.fields)) = rows.map encodeRow ∧
            rows' = rows.map fun row => rowCells row.1 row.2 := by
    intro rs
    induction rs with
    | nil => simp [pure, Except.pure, eq_comm]
    | cons r rs ih =>
      intro k rows'
      simp only [List.zipIdx_cons, List.mapM_cons, bind_eq_ok_iff, texts_eq_ok_iff, ih]
      constructor
      · rintro ⟨_, ⟨fields, hfields, h⟩, _, ⟨rows, hrows, rfl⟩, h'⟩
        refine ⟨(r.row, fields) :: rows, by simp [encodeRow, hfields, hrows], ?_⟩
        rw [← Except.ok.inj h', ← Except.ok.inj h]
        rfl
      · rintro ⟨rows, hrows, rfl⟩
        obtain ⟨⟨row, fields⟩, rows, rfl, hr, hrs⟩ := List.map_eq_cons_iff.mp hrows.symm
        obtain ⟨rfl, hfields⟩ := Prod.mk.inj hr
        exact ⟨_, ⟨fields, hfields.symm, rfl⟩, _, ⟨rows, hrs.symm, rfl⟩, rfl⟩
  rw [read, bind_eq_ok_iff]
  constructor
  · rintro ⟨_, hrows, h⟩
    obtain ⟨rows, hrecords, rfl⟩ := (hfrom _ _ _).mp hrows
    exact ⟨rows, hrecords, (Except.ok.inj h).symm⟩
  · rintro ⟨rows, hrecords, rfl⟩
    exact ⟨_, (hfrom _ _ _).mpr ⟨rows, hrecords, rfl⟩, rfl⟩

/-! ## Cells -/

/-- The cells of a record are its texts, trimmed, in the columns of their fields. -/
lemma mem_rowCells_iff {row : Nat} {fields : List String} {a : Address} {value : String} :
    (a, value) ∈ rowCells row fields ↔ a.row.val = row ∧ value ≠ "" ∧
      ∃ field, fields[a.column.val - 1]? = some field ∧ value = Text.trim field := by
  have hpos := a.column.pos
  simp only [rowCells, List.mem_filterMap, List.mem_zipIdx_iff_getElem?, Prod.exists]
  constructor
  · rintro ⟨field, i, hfield, h⟩
    split at h
    case isTrue => cases h
    case isFalse hvalue =>
      obtain ⟨a', ha, h⟩ := Option.map_eq_some_iff.mp h
      cases h
      obtain ⟨hcolumn, hrow⟩ := Address.ofNumbers?_eq_some_iff.mp ha
      have hi : a.column.val - 1 = i := by omega
      exact ⟨hrow, hvalue, field, by rw [hi, hfield], rfl⟩
  · rintro ⟨hrow, hvalue, field, hfield, rfl⟩
    have hi : a.column.val = a.column.val - 1 + 1 := by omega
    refine ⟨field, a.column.val - 1, hfield, ?_⟩
    rw [if_neg hvalue, Address.ofNumbers?_eq_some_iff.mpr ⟨hi, hrow⟩]
    rfl

/-- A cell is found exactly where a field of some row stands in its column, and then its text is the
field without the white space around it, unless nothing is left. -/
lemma mem_cellsOf_iff {rows : List (Nat × List String)} {a : Address} {value : String} :
    (a, value) ∈ cellsOf rows ↔ value ≠ "" ∧ ∃ fields, (a.row.val, fields) ∈ rows ∧
      ∃ field, fields[a.column.val - 1]? = some field ∧ value = Text.trim field := by
  simp only [cellsOf, List.mem_flatMap, mem_rowCells_iff]
  constructor
  · rintro ⟨⟨row, fields⟩, hrow, ha, hvalue, hfield⟩
    exact ⟨hvalue, fields, by rwa [ha], hfield⟩
  · rintro ⟨hvalue, fields, hrow, hfield⟩
    exact ⟨(a.row.val, fields), hrow, rfl, hvalue, hfield⟩

/-- The fields of a record lie in increasing columns. -/
lemma pairwise_rowCells (row : Nat) (fields : List String) :
    (rowCells row fields).Pairwise fun x y => x.1.column.val < y.1.column.val := by
  have hindex : fields.zipIdx.Pairwise fun p q => p.2 < q.2 := by
    rw [← List.pairwise_map, List.zipIdx_map_snd]
    exact List.pairwise_lt_range' 1
  refine List.Pairwise.filterMap _ ?_ hindex
  have hcolumn : ∀ {f : String} {i : Nat} {x : Address × String},
      (if Text.trim f = "" then none
        else (Address.ofNumbers? (i + 1) row).map fun a => (a, Text.trim f)) = some x →
      x.1.column.val = i + 1 := by
    intro f i x hx
    split at hx
    · cases hx
    · obtain ⟨a, ha, rfl⟩ := Option.map_eq_some_iff.mp hx
      exact (Address.ofNumbers?_eq_some_iff.mp ha).1
  rintro ⟨field, i⟩ ⟨field', j⟩ hij x hx y hy
  rw [hcolumn hx, hcolumn hy]
  exact Nat.succ_lt_succ hij

end Csv

end Spreadsheet
