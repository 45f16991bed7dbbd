import Mathlib.Tactic.Common
import Spreadsheet.Csv.Reading

/-!
# How records lie in a text

What the bytes of a table consist of, told without a reader.  A field is bare or in quotes, fields
have commas between them, and line breaks between records count for nothing (`Laid`).  Each record
comes with the bytes in front of it, which tell the line that it starts on (`Standing.line`).

Every sequence of bytes has a layout (`exists_laidOut`).  In a layout the first byte of a record and
a line break stand between one record and the next (`Laid.pairwise`).
-/

namespace Spreadsheet

namespace Csv

/-! ## The grammar -/

/-- A byte that ends no field outside quotes. -/
def inField (b : UInt8) : Bool :=
  b != comma && !isLineBreak b

/-- A text outside quotes: it starts with no quote, and no comma or line break is in it. -/
structure Bare (text : List UInt8) : Prop where
  head? : text.head? ≠ some quote
  inField : ∀ b ∈ text, inField b = true

/-- A text with each of its quotes twice. -/
def doubled (text : List UInt8) : List UInt8 :=
  text.flatMap fun b => if b = quote then [quote, quote] else [b]

/-- What is written for a field, and what the field is. -/
inductive FieldText : List UInt8 → List UInt8 → Prop
  | bare {text : List UInt8} (h : Bare text) : FieldText text text
  | quoted (inner : List UInt8) {tail : List UInt8} (h : Bare tail) :
      FieldText (quote :: (doubled inner ++ quote :: tail)) (inner ++ tail)

/-- What is written for the last field of all, which may leave its quotes open. -/
def FinalText (text field : List UInt8) : Prop :=
  FieldText text field ∨ text = quote :: doubled field

/-- What is written for the fields of a record, whose last one is written in some way. -/
inductive RecordText (Last : List UInt8 → List UInt8 → Prop) :
    List UInt8 → List (List UInt8) → Prop
  | last {text field : List UInt8} (h : Last text field) : RecordText Last text [field]
  | more {text field text' : List UInt8} {fields : List (List UInt8)} (h : FieldText text field)
      (others : RecordText Last text' fields) :
      RecordText Last (text ++ comma :: text') (field :: fields)

/-- A record where it stands: the bytes in front of it, and its fields. -/
structure Standing where
  before : List UInt8
  fields : List (List UInt8)
deriving DecidableEq

/-- Behind some bytes, further bytes hold records.  Empty lines hold none. -/
inductive Laid : List UInt8 → List UInt8 → List Standing → Prop
  | done (before : List UInt8) : Laid before [] []
  | blank {before bs : List UInt8} {b : UInt8} {found : List Standing} (hb : isLineBreak b = true)
      (others : Laid (before ++ [b]) bs found) : Laid before (b :: bs) found
  | final {before text : List UInt8} {fields : List (List UInt8)}
      (h : RecordText FinalText text fields) (hne : text ≠ []) : Laid before text [⟨before, fields⟩]
  | record {before text bs : List UInt8} {fields : List (List UInt8)} {b : UInt8}
      {found : List Standing} (h : RecordText FieldText text fields) (hne : text ≠ [])
      (hb : isLineBreak b = true) (others : Laid (before ++ text ++ [b]) bs found) :
      Laid before (text ++ b :: bs) (⟨before, fields⟩ :: found)

/-- The byte-order mark in front of the bytes, if there is one. -/
def mark (bytes : List UInt8) : List UInt8 :=
  if byteOrderMark.isPrefixOf bytes then byteOrderMark else []

/-- The bytes hold records, behind a byte-order mark or without one. -/
def LaidOut (bytes : List UInt8) (found : List Standing) : Prop :=
  Laid (mark bytes) (bytes.drop (mark bytes).length) found

/-- The line that the record starts on. -/
def Standing.line (st : Standing) : Nat :=
  st.before.count lineFeed + 1

/-! ## Every text has a layout -/

/-- Both a line feed and a carriage return break a line, and nothing else does. -/
lemma isLineBreak_iff {b : UInt8} : isLineBreak b = true ↔ b = lineFeed ∨ b = carriageReturn := by
  simp [isLineBreak]

/-- Doubling quotes goes byte by byte: a quote is written twice, every other byte once. -/
lemma doubled_cons (b : UInt8) (bs : List UInt8) :
    doubled (b :: bs) = (if b = quote then [quote, quote] else [b]) ++ doubled bs :=
  List.flatMap_cons

/-- Behind a quote, either the quotes stay open or a single quote closes them. -/
lemma exists_doubled (bs : List UInt8) : (∃ inner, bs = doubled inner) ∨
    ∃ inner rest, bs = doubled inner ++ quote :: rest ∧ rest.head? ≠ some quote := by
  match bs with
  | [] => exact .inl ⟨[], rfl⟩
  | b :: bs =>
    by_cases hb : b = quote
    · subst hb
      -- A quote is half of a doubled one or the closing one, as the byte behind it tells.
      match bs with
      | [] => exact .inr ⟨[], [], rfl, by simp⟩
      | c :: bs =>
        by_cases hc : c = quote
        · subst hc
          obtain ⟨inner, rfl⟩ | ⟨inner, rest, rfl, hrest⟩ := exists_doubled bs
          · exact .inl ⟨quote :: inner, by simp [doubled_cons]⟩
          · exact .inr ⟨quote :: inner, rest, by simp [doubled_cons], hrest⟩
        · exact .inr ⟨[], c :: bs, rfl, by simpa using hc⟩
    · obtain ⟨inner, rfl⟩ | ⟨inner, rest, rfl, hrest⟩ := exists_doubled bs
      · exact .inl ⟨b :: inner, by simp [doubled_cons, hb]⟩
      · exact .inr ⟨b :: inner, rest, by simp [doubled_cons, hb], hrest⟩

/-- Outside quotes a text runs to the end, a comma or a line break. -/
lemma exists_bare {bs : List UInt8} (h : bs.head? ≠ some quote) : ∃ text rest,
    Bare text ∧ bs = text ++ rest ∧ ∀ b ∈ rest.head?, inField b = false := by
  refine ⟨bs.takeWhile inField, bs.dropWhile inField, ⟨?_, ?_⟩,
    List.takeWhile_append_dropWhile.symm, ?_⟩
  · intro hhead
    match bs with
    | [] => cases hhead
    | b :: bs =>
      by_cases hb : inField b = true
      · rw [List.takeWhile_cons_of_pos hb] at hhead
        exact h hhead
      · rw [List.takeWhile_cons_of_neg hb] at hhead
        cases hhead
  · intro b hb
    exact List.all_eq_true.mp List.all_takeWhile b hb
  · intro b hb
    have hnot := List.head?_dropWhile_not inField bs
    rw [Option.mem_def.mp hb] at hnot
    simpa using hnot

/-- A field runs to the end, a comma or a line break, or its quotes stay open. -/
lemma exists_fieldText (bs : List UInt8) : (∃ field, bs = quote :: doubled field) ∨
    ∃ text field rest, FieldText text field ∧ bs = text ++ rest ∧
      ∀ b ∈ rest.head?, inField b = false := by
  by_cases h : bs.head? = some quote
  · obtain ⟨bs, rfl⟩ := List.head?_eq_some_iff.mp h
    obtain ⟨inner, rfl⟩ | ⟨inner, after, rfl, hafter⟩ := exists_doubled bs
    · exact .inl ⟨inner, rfl⟩
    · obtain ⟨tail, rest, htail, rfl, hrest⟩ := exists_bare hafter
      exact .inr ⟨_, _, rest, .quoted inner htail, by simp, hrest⟩
  · obtain ⟨text, rest, htext, rfl, hrest⟩ := exists_bare h
    exact .inr ⟨text, text, rest, .bare htext, rfl, hrest⟩

/-- Whatever bytes follow, a record can be read off them that runs either to the end or to a line
break. -/
lemma exists_recordText (bs : List UInt8) : (∃ fields, RecordText FinalText bs fields) ∨
    ∃ text fields b rest, RecordText FieldText text fields ∧ isLineBreak b = true ∧
      bs = text ++ b :: rest := by
  obtain ⟨field, hopen⟩ | ⟨text, field, rest, htext, hbs, hrest⟩ := exists_fieldText bs
  · exact .inl ⟨[field], .last (.inr hopen)⟩
  · match rest with
    | [] => exact .inl ⟨[field], .last (.inl (by rwa [hbs, List.append_nil]))⟩
    | b :: rest =>
      by_cases hcomma : b = comma
      · subst hcomma
        have hshorter : rest.length < bs.length := by
          simp [hbs]
          omega
        subst hbs
        obtain ⟨fields, h⟩ | ⟨text', fields, b, rest, h, hb, rfl⟩ := exists_recordText rest
        · exact .inl ⟨field :: fields, .more htext h⟩
        · exact .inr ⟨_, field :: fields, b, rest, .more htext h, hb, by simp⟩
      · have hb : isLineBreak b = true := by
          simpa [inField, hcomma] using hrest b rfl
        exact .inr ⟨text, [field], b, rest, .last htext, hb, hbs⟩
  termination_by bs.length

/-- Bytes can be laid out behind whatever stands in front of them: line breaks are passed over, and
a record ends where they do or at a line break. -/
lemma exists_laid (before bs : List UInt8) : ∃ found, Laid before bs found := by
  match bs with
  | [] => exact ⟨[], .done before⟩
  | b :: bs =>
    by_cases hb : isLineBreak b = true
    · obtain ⟨found, h⟩ := exists_laid (before ++ [b]) bs
      exact ⟨found, .blank hb h⟩
    · obtain ⟨fields, h⟩ | ⟨text, fields, b', rest, h, hb', hbs⟩ := exists_recordText (b :: bs)
      · exact ⟨_, .final h (List.cons_ne_nil b bs)⟩
      · have hne : text ≠ [] := by
          rintro rfl
          rw [(List.cons.inj hbs).1] at hb
          exact hb hb'
        have hshorter : rest.length < (b :: bs).length := by
          simp only [hbs, List.length_append, List.length_cons]
          omega
        obtain ⟨found, hfound⟩ := exists_laid (before ++ text ++ [b']) rest
        rw [hbs]
        exact ⟨_, .record h hne hb' hfound⟩
  termination_by bs.length
  decreasing_by
    · exact Nat.lt_succ_self _
    · exact hshorter

/-! ## Byte-order marks -/

/-- The mark in front of a text is a byte-order mark or nothing. -/
lemma mark_cases (bytes : List UInt8) :
    byteOrderMark.isPrefixOf bytes = true ∧ mark bytes = byteOrderMark ∨
      byteOrderMark.isPrefixOf bytes = false ∧ mark bytes = [] := by
  rw [mark]
  cases byteOrderMark.isPrefixOf bytes <;> simp

/-- The mark and what is left behind it make up the text. -/
lemma mark_append_drop (bytes : List UInt8) :
    mark bytes ++ bytes.drop (mark bytes).length = bytes := by
  rcases mark_cases bytes with ⟨h, hmark⟩ | ⟨-, hmark⟩
  · rw [hmark]
    exact List.prefix_iff_eq_append.mp (List.isPrefixOf_iff_prefix.mp h)
  · rw [hmark]
    rfl

/-- Without a byte-order mark a text is laid out from its first byte on. -/
lemma laidOut_iff_of_not_marked {bytes : List UInt8} {found : List Standing}
    (h : byteOrderMark.isPrefixOf bytes = false) : LaidOut bytes found ↔ Laid [] bytes found := by
  simp [LaidOut, mark, h]

/-- A byte-order mark is passed over: the text is laid out from behind it on. -/
lemma laidOut_byteOrderMark_append_iff {bytes : List UInt8} {found : List Standing} :
    LaidOut (byteOrderMark ++ bytes) found ↔ Laid byteOrderMark bytes found := by
  have h : byteOrderMark.isPrefixOf (byteOrderMark ++ bytes) = true :=
    List.isPrefixOf_iff_prefix.mpr (List.prefix_append _ _)
  rw [LaidOut, mark, if_pos h, List.drop_left]

/-- Every text has a layout. There is no text on which the description of records says nothing. -/
theorem exists_laidOut (bytes : List UInt8) : ∃ found, LaidOut bytes found :=
  exists_laid _ _

/-! ## Successive records -/

/-- A field starts with no line break: it starts with a quote, or it is bare and holds none. -/
lemma FieldText.isLineBreak_head? {text field : List UInt8} (h : FieldText text field) :
    ∀ b ∈ text.head?, isLineBreak b = false := by
  intro b hb
  rcases h with h | ⟨inner, -⟩
  · have hin := h.inField b (List.mem_of_mem_head? hb)
    simp only [inField, Bool.and_eq_true, Bool.not_eq_true'] at hin
    exact hin.2
  · rw [← Option.some.inj hb]
    decide

/-- The last field of a text starts with no line break, even when its quotes stay open. -/
lemma FinalText.isLineBreak_head? {text field : List UInt8} (h : FinalText text field) :
    ∀ b ∈ text.head?, isLineBreak b = false := by
  rcases h with h | rfl
  · exact h.isLineBreak_head?
  · intro b hb
    rw [← Option.some.inj hb]
    decide

/-- A record starts with no line break, if its last field does not. -/
lemma RecordText.exists_eq_cons {Last : List UInt8 → List UInt8 → Prop}
    (hlast : ∀ {text field}, Last text field → ∀ b ∈ text.head?, isLineBreak b = false)
    {text : List UInt8} {fields : List (List UInt8)} (h : RecordText Last text fields)
    (hne : text ≠ []) : ∃ b rest, text = b :: rest ∧ isLineBreak b = false := by
  obtain ⟨b, rest, rfl⟩ := List.exists_cons_of_ne_nil hne
  refine ⟨b, rest, rfl, ?_⟩
  generalize heq : b :: rest = text at h
  rcases h with h | @⟨text, field, text', -, h, -⟩
  · exact hlast (heq ▸ h) b rfl
  · match text, h with
    | [], _ =>
      rw [(List.cons.inj heq).1]
      decide
    | c :: cs, h =>
      rw [(List.cons.inj heq).1]
      exact h.isLineBreak_head? c rfl

/-- One record stands somewhere before another: between them are its own first byte and, further
on, a line break. -/
def Standing.Precedes (p q : Standing) : Prop :=
  ∃ b more, q.before = p.before ++ b :: more ∧ isLineBreak b = false ∧
    ∃ c ∈ more, isLineBreak c = true

section Laid

variable {before bs : List UInt8} {found : List Standing}

/-- A record stands behind all that was passed over before it, and in front of some of the bytes
that are left. -/
lemma Laid.before_isPrefix (h : Laid before bs found) :
    ∀ st ∈ found, before <+: st.before ∧ st.before <+: before ++ bs := by
  induction h with
  | done => simp
  | @blank before bs b found hb others ih =>
    intro st hst
    obtain ⟨hbefore, hbytes⟩ := ih st hst
    exact ⟨(List.prefix_append _ _).trans hbefore, by simpa using hbytes⟩
  | final => simp
  | @record before text bs fields b found h hne hb others ih =>
    intro st hst
    rcases List.mem_cons.mp hst with rfl | hst
    · exact ⟨List.prefix_rfl, List.prefix_append _ _⟩
    · obtain ⟨hbefore, hbytes⟩ := ih st hst
      rw [List.append_assoc] at hbefore
      exact ⟨(List.prefix_append _ _).trans hbefore, by simpa using hbytes⟩

/-- Each record stands before those behind it, with a line break between them. -/
lemma Laid.pairwise (h : Laid before bs found) : found.Pairwise Standing.Precedes := by
  induction h with
  | done => exact .nil
  | blank _ _ ih => exact ih
  | final => exact List.pairwise_singleton _ _
  | @record before text bs fields b found h hne hb others ih =>
    refine .cons (fun st hst => ?_) ih
    obtain ⟨rest, hrest⟩ := (others.before_isPrefix st hst).1
    obtain ⟨c, text, rfl, hc⟩ := h.exists_eq_cons FieldText.isLineBreak_head? hne
    exact ⟨c, text ++ b :: rest, by simp [← hrest], hc, b, by simp, hb⟩

/-- Each record of a text stands behind the mark and within the text. -/
lemma LaidOut.before_isPrefix {bytes : List UInt8} (h : LaidOut bytes found) :
    ∀ st ∈ found, mark bytes <+: st.before ∧ st.before <+: bytes := by
  have hbefore := Laid.before_isPrefix h
  rwa [mark_append_drop] at hbefore

end Laid

end Csv

end Spreadsheet
