import Spreadsheet.Proofs.Csv.Layout

/-!
# Scanning a layout

How the scan of bytes runs over what a layout consists of.  A text within quotes or outside adds its
bytes to the field under way (`Scan.extend`), so that a field is read as what its text says
(`Scan.reads_fieldText`), and the fields of a record are read one after the other
(`Scan.foldl_recordText`).
-/

namespace Spreadsheet

namespace Csv

/-! ## The scan of a field -/

/-- The places behind the last byte of a field. -/
def Place.EndsField (place : Place) : Prop :=
  place = .fieldStart ∨ place = .plain ∨ place = .afterQuote

namespace Scan

variable {s : Scan}

/-- The scan after a text within a record: the place behind it, and what is held of the record. -/
def after (s : Scan) (text : List UInt8) (place : Place) (fields : List (List UInt8))
    (field : List UInt8) : Scan :=
  { s with
    fields
    field
    place
    offset := s.offset + text.length
    lineFeeds := s.lineFeeds + text.count lineFeed }

/-- Texts that are scanned one after the other are scanned like one text. -/
lemma after_after (s : Scan) (text text' : List UInt8) (place place' : Place)
    (fields fields' : List (List UInt8)) (field field' : List UInt8) :
    (s.after text place fields field).after text' place' fields' field' =
      s.after (text ++ text') place' fields' field' := by
  simp [after, Nat.add_assoc]

/-- The scan after a text that adds to the field under way. -/
def extend (s : Scan) (text more : List UInt8) (place : Place) : Scan :=
  s.after text place s.fields (more.reverse ++ s.field)

/-- Texts that add to the field one after the other add to it like one text. -/
lemma extend_extend (s : Scan) (text more text' more' : List UInt8) (place place' : Place) :
    (s.extend text more place).extend text' more' place' =
      s.extend (text ++ text') (more ++ more') place' := by
  simp [extend, after, Nat.add_assoc]

/-- A scan that is at a place already is not changed by an empty text. -/
lemma extend_nil {place : Place} (hs : s.place = place) : s.extend [] [] place = s := by
  rw [← hs]
  rfl

/-- Outside quotes the bytes of a field are added; only behind other bytes may a quote be one. -/
lemma step_inField {b : UInt8} (hs : s.place.EndsField) (hb : inField b = true)
    (hquote : s.place = .plain ∨ b ≠ quote) : s.step b = s.extend [b] [b] .plain := by
  simp only [inField, isLineBreak, Bool.and_eq_true, bne_iff_ne, Bool.not_eq_true',
    Bool.or_eq_false_iff, beq_eq_false_iff_ne] at hb
  obtain ⟨hcomma, hfeed, hreturn⟩ := hb
  rcases hs with hs | hs | hs <;> rw [hs] at hquote <;>
    simp_all [step, count, stepCounted, stepFieldStart, isLineBreak, add, extend, after]

/-- Within a field that is not quoted, all bytes up to its end are added to it. -/
lemma foldl_plain (hs : s.place = .plain) {bs : List UInt8} (hbs : ∀ b ∈ bs, inField b = true) :
    bs.foldl step s = s.extend bs bs .plain := by
  induction bs generalizing s with
  | nil => exact (extend_nil hs).symm
  | cons b bs ih =>
    have hstep : s.step b = s.extend [b] [b] .plain :=
      step_inField (.inr (.inl hs)) (hbs b List.mem_cons_self) (.inl hs)
    rw [List.foldl_cons, hstep, ih rfl fun c hc => hbs c (List.mem_cons_of_mem b hc), extend_extend]
    rfl

/-- A text outside quotes is added to its field as it stands, at the start of a field as well as
behind a closing quote. -/
lemma foldl_bare {text : List UInt8} (hs : s.place = .fieldStart ∨ s.place = .afterQuote)
    (h : Bare text) : ∃ place, place.EndsField ∧ text.foldl step s = s.extend text text place := by
  have hends : s.place.EndsField := hs.imp_right .inr
  match text, h with
  | [], _ => exact ⟨s.place, hends, (extend_nil rfl).symm⟩
  | b :: bs, h =>
    have hb : b ≠ quote := fun hb => h.head? (congrArg some hb)
    refine ⟨.plain, .inr (.inl rfl), ?_⟩
    rw [List.foldl_cons, step_inField hends (h.inField b List.mem_cons_self) (.inr hb),
      foldl_plain rfl fun c hc => h.inField c (List.mem_cons_of_mem b hc), extend_extend]
    rfl

/-- A quote at the start of a field opens quotes and adds nothing to the field. -/
lemma step_openingQuote (hs : s.place = .fieldStart) :
    s.step quote = s.extend [quote] [] .quoted := by
  simp [step, count, stepCounted, stepFieldStart, hs, quote, lineFeed, extend, after]

/-- A quote within quotes closes them for the time being: the next byte tells whether it is one of a
doubled quote. -/
lemma step_closingQuote (hs : s.place = .quoted) :
    s.step quote = s.extend [quote] [] .afterQuote := by
  simp [step, count, stepCounted, hs, quote, lineFeed, extend, after]

/-- Within quotes every byte is added, and doubled quotes as single ones. -/
lemma foldl_doubled (hs : s.place = .quoted) (inner : List UInt8) :
    (doubled inner).foldl step s = s.extend (doubled inner) inner .quoted := by
  induction inner generalizing s with
  | nil => exact (extend_nil hs).symm
  | cons b bs ih =>
    rw [doubled_cons, List.foldl_append]
    by_cases hb : b = quote
    · have hstep : [quote, quote].foldl step s = s.extend [quote, quote] [quote] .quoted := by
        simp [step, count, stepCounted, hs, add, quote, lineFeed, extend, after]
      rw [if_pos hb, hstep, ih rfl, extend_extend, hb]
      rfl
    · have hstep : s.step b = s.extend [b] [b] .quoted := by
        by_cases hfeed : b = lineFeed
        · simp [step, count, stepCounted, hs, add, hfeed, quote, lineFeed, extend, after]
        · simp [step, count, stepCounted, hs, add, hb, hfeed, extend, after]
      rw [if_neg hb, List.foldl_cons, List.foldl_nil, hstep, ih rfl, extend_extend]
      rfl

/-- Texts that are read as fields, and the places behind them. -/
def Reads (Last : List UInt8 → List UInt8 → Prop) (P : Place → Prop) : Prop :=
  ∀ ⦃s : Scan⦄ ⦃text field : List UInt8⦄, s.place = .fieldStart → Last text field →
    ∃ place, P place ∧ text.foldl step s = s.extend text field place

/-- A field is read as what its text says. -/
lemma reads_fieldText : Reads FieldText Place.EndsField := by
  rintro s text field hs (h | ⟨inner, h⟩)
  · exact foldl_bare (.inl hs) h
  · rw [List.foldl_cons, step_openingQuote hs, List.foldl_append, foldl_doubled rfl, extend_extend,
      List.foldl_cons, step_closingQuote rfl, extend_extend]
    obtain ⟨place, hplace, hread⟩ := foldl_bare (s := s.extend _ _ .afterQuote) (.inr rfl) h
    refine ⟨place, hplace, ?_⟩
    rw [hread, extend_extend]
    simp

/-- The last field of all is read alike, also when its quotes stay open. -/
lemma reads_finalText : Reads FinalText (· ≠ .betweenRecords) := by
  rintro s text field hs (h | rfl)
  · obtain ⟨place, hplace, hread⟩ := reads_fieldText hs h
    refine ⟨place, ?_, hread⟩
    rintro rfl
    simp [Place.EndsField] at hplace
  · refine ⟨.quoted, Place.noConfusion, ?_⟩
    rw [List.foldl_cons, step_openingQuote hs, foldl_doubled rfl, extend_extend]
    rfl

/-! ## The scan of a record -/

/-- A comma outside of quotes ends the field under way and starts the next one. -/
lemma step_comma (hs : s.place.EndsField) :
    s.step comma = s.after [comma] .fieldStart (s.field.reverse :: s.fields) [] := by
  rcases hs with hs | hs | hs <;>
    simp [step, count, stepCounted, stepFieldStart, hs, comma, quote, lineFeed, endField, after]

/-- A line break outside of quotes ends the field and with it the record under way. -/
lemma step_lineBreak (hs : s.place.EndsField) {b : UInt8} (hb : isLineBreak b = true) :
    s.step b = (s.extend [b] [] s.place).endRecord := by
  rcases isLineBreak_iff.mp hb with rfl | rfl <;> rcases hs with hs | hs | hs <;>
    simp [step, count, stepCounted, stepFieldStart, hs, comma, quote, lineFeed, carriageReturn,
      isLineBreak, endRecord, extend, after]

/-- Between two records a line break is passed over. -/
lemma step_blank (hs : s.place = .betweenRecords) {b : UInt8} (hb : isLineBreak b = true) :
    s.step b = s.extend [b] [] .betweenRecords := by
  rcases isLineBreak_iff.mp hb with rfl | rfl <;>
    simp [step, count, stepCounted, hs, lineFeed, carriageReturn, isLineBreak, extend, after]

/-- The scan at the first byte of a record. -/
def begin (s : Scan) : Scan :=
  { s with
    place := .fieldStart
    row := if s.marked then 1 else s.lineFeeds + 1
    marked := false }

/-- The first byte of a record starts its first field. -/
lemma foldl_begin (hs : s.place = .betweenRecords) {b : UInt8} (hb : isLineBreak b = false)
    (bs : List UInt8) : (b :: bs).foldl step s = (b :: bs).foldl step s.begin := by
  have hfeed : b ≠ lineFeed := by
    rintro rfl
    cases hb
  have hstep : s.step b = s.begin.step b := by
    simp [step, count, stepCounted, stepFieldStart, begin, hs, hb, hfeed, add, endField]
  rw [List.foldl_cons, List.foldl_cons, hstep]

variable {Last : List UInt8 → List UInt8 → Prop} {P : Place → Prop} {text : List UInt8}
  {fields : List (List UInt8)}

/-- The fields of a record are read one after the other. -/
lemma foldl_recordText (hlast : Reads Last P) (h : RecordText Last text fields)
    (hs : s.place = .fieldStart) (hfield : s.field = []) : ∃ place others last, P place ∧
      (last.reverse :: others).reverse = s.fields.reverse ++ fields ∧
      text.foldl step s = s.after text place others last := by
  induction h generalizing s with
  | @last text field h =>
    obtain ⟨place, hplace, hread⟩ := hlast hs h
    refine ⟨place, s.fields, field.reverse, hplace, by simp, ?_⟩
    rw [hread, extend, hfield, List.append_nil]
  | @more text field text' fields h others ih =>
    obtain ⟨place, hplace, hread⟩ := reads_fieldText hs h
    have hcomma : (s.extend text field place).step comma =
        s.after (text ++ [comma]) .fieldStart (field :: s.fields) [] := by
      rw [step_comma hplace, extend, after_after]
      simp [after, hfield]
    obtain ⟨place', others', last, hplace', hfields, hread'⟩ :=
      ih (s := s.after (text ++ [comma]) .fieldStart (field :: s.fields) []) rfl rfl
    refine ⟨place', others', last, hplace', by simpa [after] using hfields, ?_⟩
    rw [List.foldl_append, hread, List.foldl_cons, hcomma, hread', after_after,
      List.append_assoc, List.singleton_append]

end Scan

end Csv

end Spreadsheet
