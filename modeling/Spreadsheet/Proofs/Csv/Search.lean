import Spreadsheet.Proofs.Csv.Scanning

/-!
# Where records are found

The scan finds the records of a layout, and remembers of each the line and the byte where its search
began: behind the line break that ended the record before, or at the very start, in front of a
byte-order mark (`SoughtFrom`).  Between records it keeps an invariant (`Scan.Seeks`), and so every
record that is found has its place in the layout (`LaidOut.finds`); a text has one layout and no
other (`laidOut_iff`).

The row of a record is the line where its search began and the line feeds among the line breaks
behind that byte (`Record.Finds.row_eq`).  It is the line that the record starts on, except behind a
byte-order mark, at which the count of line feeds ends before it begins (`Standing.row`).
-/

namespace Spreadsheet

namespace Csv

/-- Only a byte-order mark and line breaks. -/
def onlyMark (before : List UInt8) : Bool :=
  byteOrderMark.isPrefixOf before && (before.drop byteOrderMark.length).all isLineBreak

/-- The row that a record is read in. -/
def Standing.row (st : Standing) : Nat :=
  if onlyMark st.before then 1 else st.line

/-- Where the search for a record begins: the bytes in front of it, its line and its byte.  The very
first search begins in front of a byte-order mark, which it passes over. -/
inductive SoughtFrom (bytes : List UInt8) : List UInt8 → Nat → Nat → Prop
  | start : SoughtFrom bytes (mark bytes) 1 0
  | behind {front : List UInt8} (hne : front ≠ []) (honly : onlyMark front = false) :
      SoughtFrom bytes front (front.count lineFeed + 1) front.length

/-- A record that the scan gives is the one that stands in the layout. -/
structure Record.Finds (bytes : List UInt8) (r : Record) (st : Standing) : Prop where
  fields : r.fields = st.fields
  row : r.row = st.row
  sought : ∃ front blank, st.before = front ++ blank ∧ (∀ b ∈ blank, isLineBreak b = true) ∧
    SoughtFrom bytes front r.line r.byte
  bytes : ∃ b rest, bytes = st.before ++ b :: rest ∧ isLineBreak b = false

/-! ## Byte-order marks -/

section Mark

variable {bytes before blank : List UInt8} {b : UInt8}

/-- No byte of a byte-order mark breaks a line. -/
lemma not_isLineBreak_of_mem_byteOrderMark (h : b ∈ byteOrderMark) : isLineBreak b = false := by
  have hall : byteOrderMark.all (fun b => !isLineBreak b) = true := by decide
  simpa using List.all_eq_true.mp hall b h

/-- Nothing but a byte-order mark was seen exactly when only line breaks stand behind the mark. -/
lemma onlyMark_iff : onlyMark before = true ↔
    ∃ blank, before = byteOrderMark ++ blank ∧ ∀ b ∈ blank, isLineBreak b = true := by
  rw [onlyMark, Bool.and_eq_true, List.isPrefixOf_iff_prefix, List.all_eq_true]
  constructor
  · rintro ⟨⟨blank, rfl⟩, hblank⟩
    rw [List.drop_left] at hblank
    exact ⟨blank, rfl, hblank⟩
  · rintro ⟨blank, rfl, hblank⟩
    rw [List.drop_left]
    exact ⟨List.prefix_append _ _, hblank⟩

/-- Line breaks behind a text make no difference to whether it is nothing but a mark and line
breaks. -/
lemma onlyMark_append (hblank : ∀ b ∈ blank, isLineBreak b = true) :
    onlyMark (before ++ blank) = onlyMark before := by
  rw [Bool.eq_iff_iff, onlyMark_iff, onlyMark_iff]
  constructor
  · rintro ⟨blank', heq, hblank'⟩
    rcases List.append_eq_append_iff.mp heq with ⟨rest, hmark, rfl⟩ | ⟨blank'', hbefore, rfl⟩
    · -- No byte of the mark is a line break, so the mark ends before them.
      have hrest : rest = [] := by
        rw [List.eq_nil_iff_forall_not_mem]
        intro b hb
        have hnot : isLineBreak b = false :=
          not_isLineBreak_of_mem_byteOrderMark (by rw [hmark]; exact List.mem_append_right _ hb)
        rw [hblank b (List.mem_append_left _ hb)] at hnot
        cases hnot
      rw [hrest, List.append_nil] at hmark
      exact ⟨[], by simp [hmark], by simp⟩
    · exact ⟨blank'', hbefore, fun b hb => hblank' b (List.mem_append_left _ hb)⟩
  · rintro ⟨blank', rfl, hblank'⟩
    refine ⟨blank' ++ blank, List.append_assoc _ _ _, ?_⟩
    intro b hb
    rcases List.mem_append.mp hb with hb | hb
    · exact hblank' b hb
    · exact hblank b hb

/-- A byte of a record makes the difference, if the mark was read before it. -/
lemma onlyMark_append_cons (hmark : mark bytes <+: before) {rest : List UInt8}
    (hbytes : before ++ b :: rest <+: bytes) (hb : isLineBreak b = false) :
    onlyMark (before ++ b :: rest) = false := by
  rw [Bool.eq_false_iff]
  intro honly
  obtain ⟨blank, hall, hblank⟩ := onlyMark_iff.mp honly
  have hstarts : byteOrderMark <+: bytes :=
    (List.prefix_append _ blank).trans (hall ▸ hbytes)
  rw [mark, if_pos (List.isPrefixOf_iff_prefix.mpr hstarts)] at hmark
  obtain ⟨rest', rfl⟩ := hmark
  rw [List.append_assoc, List.append_cancel_left_eq] at hall
  have hbreak := hblank b (by simp [← hall])
  rw [hb] at hbreak
  cases hbreak

end Mark

namespace Scan

/-- The scan between two records, behind some bytes. -/
structure Seeks (s : Scan) (bytes before : List UInt8) : Prop where
  place : s.place = .betweenRecords
  fields : s.fields = []
  field : s.field = []
  offset : s.offset = before.length
  lineFeeds : s.lineFeeds = before.count lineFeed
  marked : s.marked = onlyMark before
  mark : mark bytes <+: before
  sought : ∃ front blank, before = front ++ blank ∧ (∀ b ∈ blank, isLineBreak b = true) ∧
    SoughtFrom bytes front s.line s.byte

variable {s : Scan} {bytes before rest : List UInt8} {fields : List (List UInt8)} {b : UInt8}

/-- The scan starts between two records, behind the mark of the text. -/
lemma seeks_start (bytes : List UInt8) :
    (start (byteOrderMark.isPrefixOf bytes)).Seeks bytes (Csv.mark bytes) where
  place := rfl
  fields := rfl
  field := rfl
  offset := by rcases mark_cases bytes with ⟨h, hmark⟩ | ⟨h, hmark⟩ <;> rw [h, hmark] <;> rfl
  lineFeeds := by rcases mark_cases bytes with ⟨h, hmark⟩ | ⟨h, hmark⟩ <;> rw [hmark] <;> rfl
  marked := by rcases mark_cases bytes with ⟨h, hmark⟩ | ⟨h, hmark⟩ <;> rw [h, hmark] <;> rfl
  mark := List.prefix_rfl
  sought := ⟨_, [], (List.append_nil _).symm, by simp, .start⟩

/-- A line break between records is passed over, and the scan goes on seeking from behind it. -/
lemma Seeks.blank (h : s.Seeks bytes before) (hb : isLineBreak b = true) :
    (s.step b).Seeks bytes (before ++ [b]) := by
  rw [step_blank h.place hb]
  obtain ⟨front, blank, rfl, hblank, hsought⟩ := h.sought
  exact {
    place := rfl
    fields := h.fields
    field := h.field
    offset := by simp [extend, after, h.offset, Nat.add_assoc]
    lineFeeds := by simp [extend, after, h.lineFeeds, Nat.add_assoc]
    marked := by
      rw [onlyMark_append (by simpa using hb)]
      exact h.marked
    mark := h.mark.trans (List.prefix_append _ _)
    sought := by
      refine ⟨front, blank ++ [b], List.append_assoc _ _ _, ?_, hsought⟩
      simpa [or_imp, forall_and, hb] using hblank }

variable {Last : List UInt8 → List UInt8 → Prop} {P : Place → Prop}

/-- The text of a record is read from its first byte on. -/
lemma Seeks.foldl_recordText (h : s.Seeks bytes before) (hlast : Reads Last P)
    (htext : RecordText Last (b :: rest) fields) (hb : isLineBreak b = false) :
    ∃ place others last, P place ∧ (last.reverse :: others).reverse = fields ∧
      (b :: rest).foldl step s = s.begin.after (b :: rest) place others last := by
  obtain ⟨place, others, last, hplace, hfields, hread⟩ :=
    Scan.foldl_recordText (s := s.begin) hlast htext rfl h.field
  refine ⟨place, others, last, hplace, ?_, by rw [foldl_begin h.place hb, hread]⟩
  simpa [begin, h.fields] using hfields

/-- The record that starts here. -/
def found (s : Scan) (fields : List (List UInt8)) : Record :=
  ⟨s.begin.row, s.line, s.byte, fields⟩

/-- The record that starts here is the one that stands behind the bytes seen so far. -/
lemma Seeks.finds (h : s.Seeks bytes before) (hbytes : bytes = before ++ b :: rest)
    (hb : isLineBreak b = false) : (s.found fields).Finds bytes ⟨before, fields⟩ where
  fields := rfl
  row := by simp [found, begin, h.marked, h.lineFeeds, Standing.row, Standing.line]
  sought := h.sought
  bytes := ⟨b, rest, hbytes, hb⟩

/-- At the end of the text the last record is found. -/
lemma Seeks.finish (h : s.Seeks bytes before) (htext : RecordText FinalText (b :: rest) fields)
    (hb : isLineBreak b = false) :
    ((b :: rest).foldl step s).finish = s.records.reverse ++ [s.found fields] := by
  obtain ⟨place, others, last, hplace, hfields, hread⟩ :=
    h.foldl_recordText reads_finalText htext hb
  have hunder : (s.begin.after (b :: rest) place others last).place ≠ .betweenRecords := hplace
  rw [hread, Scan.finish, if_neg hunder]
  simp [found, endRecord, after, begin, ← hfields]

/-- Behind a record and a line break the scan seeks the next one. -/
lemma Seeks.next (h : s.Seeks bytes before) (htext : RecordText FieldText (b :: rest) fields)
    (hb : isLineBreak b = false) {c : UInt8} (hc : isLineBreak c = true)
    (hbytes : before ++ b :: rest ++ [c] <+: bytes) :
    ((b :: rest ++ [c]).foldl step s).Seeks bytes (before ++ b :: rest ++ [c]) ∧
      ((b :: rest ++ [c]).foldl step s).records = s.found fields :: s.records := by
  obtain ⟨place, others, last, hplace, hfields, hread⟩ :=
    h.foldl_recordText reads_fieldText htext hb
  have honly : onlyMark (before ++ b :: rest ++ [c]) = false := by
    rw [List.append_assoc, List.cons_append] at hbytes ⊢
    exact onlyMark_append_cons h.mark hbytes hb
  rw [List.foldl_append, hread, List.foldl_cons, List.foldl_nil, step_lineBreak hplace hc]
  -- From here on the text counts only by its length and its line feeds.
  generalize b :: rest = text at honly ⊢
  refine ⟨?_, by simp [found, endRecord, extend, after, begin, hfields]⟩
  exact {
    place := rfl
    fields := rfl
    field := rfl
    offset := by simp [endRecord, extend, after, begin, h.offset, Nat.add_assoc]
    lineFeeds := by simp [endRecord, extend, after, begin, h.lineFeeds, Nat.add_assoc]
    marked := honly.symm
    mark := by
      rw [List.append_assoc]
      exact h.mark.trans (List.prefix_append _ _)
    sought := by
      refine ⟨before ++ text ++ [c], [], (List.append_nil _).symm, by simp, ?_⟩
      have hsought : SoughtFrom bytes (before ++ text ++ [c]) _ _ := .behind (by simp) honly
      simpa [endRecord, extend, after, begin, h.lineFeeds, h.offset, Nat.add_assoc] using hsought }

end Scan

/-- The scan of a laid out text gives one record for each that the layout has, found where it
stands. -/
lemma Laid.finds {before bs bytes : List UInt8} {found : List Standing} (h : Laid before bs found)
    {s : Scan} (hs : s.Seeks bytes before) (hbytes : bytes = before ++ bs) :
    ∃ rs, (bs.foldl Scan.step s).finish = s.records.reverse ++ rs ∧
      List.Forall₂ (Record.Finds bytes) rs found := by
  induction h generalizing s with
  | done before =>
    refine ⟨[], ?_, .nil⟩
    rw [List.foldl_nil, Scan.finish, if_pos hs.place, List.append_nil]
  | @blank before bs b found hb others ih =>
    obtain ⟨rs, hread, hfound⟩ := ih (hs.blank hb) (by simp [hbytes])
    refine ⟨rs, ?_, hfound⟩
    rw [List.foldl_cons, hread, Scan.step_blank hs.place hb]
    rfl
  | @final before text fields h hne =>
    obtain ⟨b, rest, rfl, hb⟩ := h.exists_eq_cons FinalText.isLineBreak_head? hne
    exact ⟨_, hs.finish h hb, .cons (hs.finds hbytes hb) .nil⟩
  | @record before text bs fields c found h hne hc others ih =>
    obtain ⟨b, rest, rfl, hb⟩ := h.exists_eq_cons FieldText.isLineBreak_head? hne
    have hsplit : bytes = before ++ b :: rest ++ [c] ++ bs := by simp [hbytes]
    obtain ⟨hnext, hrecords⟩ := hs.next h hb hc ⟨bs, hsplit.symm⟩
    obtain ⟨rs, hread, hfound⟩ := ih hnext hsplit
    refine ⟨s.found fields :: rs, ?_, .cons (hs.finds (by simpa using hbytes) hb) hfound⟩
    have hbs : b :: rest ++ c :: bs = b :: rest ++ [c] ++ bs := by simp
    rw [hbs, List.foldl_append, hread, hrecords, List.reverse_cons, List.append_assoc]
    rfl

/-- The records of a text are those of its layout. -/
theorem LaidOut.finds {bytes : List UInt8} {found : List Standing} (h : LaidOut bytes found) :
    List.Forall₂ (Record.Finds bytes) (records bytes) found := by
  obtain ⟨rs, hread, hfound⟩ := Laid.finds h (Scan.seeks_start bytes) (mark_append_drop bytes).symm
  have hrecords : records bytes = rs := by
    rw [records]
    rcases mark_cases bytes with ⟨hstarts, hmark⟩ | ⟨hstarts, hmark⟩ <;>
      rw [hstarts, hmark] at hread <;> rw [hstarts] <;> exact hread
  rwa [hrecords]

/-! ## Rows and layouts from what was found -/

/-- The row that is counted for a record: the line where its search began, and the line feeds among
the line breaks behind that byte. -/
def Record.countedRow (bytes : List UInt8) (r : Record) : Nat :=
  r.line + ((bytes.drop r.byte).takeWhile isLineBreak).count lineFeed

/-- The bytes in front of a record, from where its search began. -/
def Record.before (bytes : List UInt8) (r : Record) : List UInt8 :=
  let front := if r.byte = 0 then (mark bytes).length else r.byte
  bytes.take front ++ (bytes.drop front).takeWhile isLineBreak

section Found

variable {bytes front blank rest : List UInt8} {b : UInt8} {line byte : Nat} {r : Record}
  {st : Standing} {found : List Standing}

/-- The byte where a search began tells how many bytes are in front of it, where the first search is
taken to begin behind the mark. -/
lemma SoughtFrom.length_eq (h : SoughtFrom bytes front line byte) :
    (if byte = 0 then (mark bytes).length else byte) = front.length := by
  rcases h with _ | ⟨hne, -⟩
  · rfl
  · exact if_neg (Nat.ne_of_gt (List.length_pos_iff.mpr hne))

/-- A search passes over all line breaks and stops at the first other byte. -/
lemma takeWhile_isLineBreak (hblank : ∀ b ∈ blank, isLineBreak b = true)
    (hb : isLineBreak b = false) : (blank ++ b :: rest).takeWhile isLineBreak = blank := by
  have hnot : ¬isLineBreak b = true := by simp [hb]
  rw [List.takeWhile_append_of_pos hblank, List.takeWhile_cons_of_neg hnot, List.append_nil]

/-- A record that is found stands behind the bytes that its search passed over. -/
lemma Record.Finds.before_eq (h : r.Finds bytes st) : r.before bytes = st.before := by
  obtain ⟨front, blank, hbefore, hblank, hsought⟩ := h.sought
  obtain ⟨b, rest, hbytes, hb⟩ := h.bytes
  rw [hbefore, List.append_assoc] at hbytes
  simp only [Record.before, hsought.length_eq]
  rw [hbytes, List.take_left, List.drop_left, takeWhile_isLineBreak hblank hb, hbefore]

/-- The row of a record that is found is the one counted from where its search began. -/
lemma Record.Finds.row_eq (h : r.Finds bytes st) : r.row = r.countedRow bytes := by
  obtain ⟨front, blank, hbefore, hblank, hsought⟩ := h.sought
  obtain ⟨b, rest, hbytes, hb⟩ := h.bytes
  rw [hbefore, List.append_assoc] at hbytes
  rw [h.row, Standing.row, Standing.line, hbefore, onlyMark_append hblank, Record.countedRow]
  generalize r.line = line at hsought
  generalize r.byte = byte at hsought
  rcases hsought with _ | ⟨-, honly⟩
  · rcases mark_cases bytes with ⟨-, hmark⟩ | ⟨-, hmark⟩ <;> rw [hmark] at hbytes ⊢
    · -- The count starts at the mark, which is no line break.
      have hnone : (byteOrderMark ++ (blank ++ b :: rest)).takeWhile isLineBreak = [] := rfl
      rw [hbytes, List.drop_zero, hnone]
      rfl
    · rw [hbytes, List.drop_zero, List.nil_append, List.nil_append,
        takeWhile_isLineBreak hblank hb, Nat.add_comm 1]
      rfl
  · rw [hbytes, List.drop_left, takeWhile_isLineBreak hblank hb, honly, List.count_append,
      Nat.add_right_comm]
    rfl

/-- What is found has the properties of what stands in the layout. -/
lemma LaidOut.map_eq {α : Type} {f : Record → α} {g : Standing → α} (h : LaidOut bytes found)
    (hfg : ∀ r st, r.Finds bytes st → f r = g st) : (records bytes).map f = found.map g := by
  have hfinds := h.finds
  generalize records bytes = rs at hfinds
  clear h
  induction hfinds with
  | nil => rfl
  | cons hfinds _ ih => rw [List.map_cons, List.map_cons, hfg _ _ hfinds, ih]

/-- The layout of a text is told by the records that the scan gives. -/
lemma LaidOut.eq_map (h : LaidOut bytes found) :
    found = (records bytes).map fun r => ⟨r.before bytes, r.fields⟩ := by
  have hmap := h.map_eq (g := id) fun r st hfinds =>
    congrArg₂ Standing.mk hfinds.before_eq hfinds.fields
  rw [hmap, List.map_id]

/-- A text has one layout and no other: the one that the scan finds. -/
theorem laidOut_iff : LaidOut bytes found ↔
    found = (records bytes).map fun r => ⟨r.before bytes, r.fields⟩ := by
  refine ⟨LaidOut.eq_map, ?_⟩
  rintro rfl
  obtain ⟨found, h⟩ := exists_laidOut bytes
  rw [← h.eq_map]
  exact h

/-- The rows and fields of the records are those of the layout. -/
lemma LaidOut.map_records (h : LaidOut bytes found) :
    (records bytes).map (fun r => (r.row, r.fields)) = found.map fun st => (st.row, st.fields) :=
  h.map_eq fun _ _ hfinds => congrArg₂ Prod.mk hfinds.row hfinds.fields

/-- A record is never read in a row below its line. -/
lemma Standing.row_le_line (st : Standing) : st.row ≤ st.line := by
  rw [row]
  split
  case isTrue => exact Nat.le_add_left 1 _
  case isFalse => exact Nat.le_refl _

/-- Only the first record can be read in a row that is not its line. -/
lemma LaidOut.pairwise (h : LaidOut bytes found) :
    found.Pairwise fun p q => p.Precedes q ∧ q.row = q.line := by
  refine (Laid.pairwise h).imp_of_mem fun {p q} hp hq hpq => ⟨hpq, ?_⟩
  obtain ⟨b, more, hbefore, hb, -⟩ := hpq
  have hmark := (h.before_isPrefix p hp).1
  have hbytes := (h.before_isPrefix q hq).2
  rw [hbefore] at hbytes
  rw [Standing.row, hbefore, onlyMark_append_cons hmark hbytes hb]
  rfl

/-- No line feed behind a byte-order mark, and the row of a record is its line. -/
lemma Standing.row_eq_line (h : onlyMark st.before = true → lineFeed ∉ st.before) :
    st.row = st.line := by
  rw [row]
  split
  case isTrue honly => rw [line, List.count_eq_zero.mpr (h honly)]
  case isFalse => rfl

end Found

end Csv

end Spreadsheet
