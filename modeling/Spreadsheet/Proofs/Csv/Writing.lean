import Spreadsheet.Csv.Writing
import Spreadsheet.Proofs.Csv.Cells
import Spreadsheet.Proofs.Csv.Search
import Spreadsheet.Proofs.Text.Encoding

/-!
# How a written table is laid out

A written field is the text of a field (`fieldText_writeField`), a written record is the text of its
fields and a line feed (`exists_text_writeRecord`), and so a written table is laid out record by
record (`laid_write`).  A record lies on the line after those of the records before it, whose fields
may hold line feeds of their own (`rowsFrom`).
-/

namespace Spreadsheet

namespace Csv

open Text.Utf8

/-! ## Bytes of characters -/

/-- Among the bytes of a character there is a comma only if the character is one. -/
lemma comma_mem_iff {c : Char} : comma ∈ String.utf8EncodeChar c ↔ c = ',' :=
  mem_bytes_char_iff ',' (by decide)

/-- Among the bytes of a character there is a quote only if the character is one. -/
lemma quote_mem_iff {c : Char} : quote ∈ String.utf8EncodeChar c ↔ c = '"' :=
  mem_bytes_char_iff '"' (by decide)

/-- Among the bytes of a character there is a line feed only if the character is one. -/
lemma lineFeed_mem_iff {c : Char} : lineFeed ∈ String.utf8EncodeChar c ↔ c = '\n' :=
  mem_bytes_char_iff '\n' (by decide)

/-- Among the bytes of a character there is a carriage return only if the character is one. -/
lemma carriageReturn_mem_iff {c : Char} : carriageReturn ∈ String.utf8EncodeChar c ↔ c = '\r' :=
  mem_bytes_char_iff '\r' (by decide)

/-- Line feeds are counted alike among bytes and among characters. -/
lemma count_lineFeed_bytes (cs : List Char) : (bytes cs).count lineFeed = cs.count '\n' := by
  induction cs with
  | nil => rfl
  | cons c cs ih =>
    rw [bytes_cons, List.count_append, ih, List.count_cons]
    by_cases hc : c = '\n'
    · subst hc
      have hone : (String.utf8EncodeChar '\n').count lineFeed = 1 := by decide
      simp [hone, Nat.add_comm]
    · have hnone : (String.utf8EncodeChar c).count lineFeed = 0 :=
        List.count_eq_zero.mpr fun h => hc (lineFeed_mem_iff.mp h)
      simp [hnone, hc]

/-- A byte that neither separates fields nor records, nor is a quote. -/
def Ordinary (b : UInt8) : Prop :=
  b ≠ comma ∧ b ≠ quote ∧ b ≠ lineFeed ∧ b ≠ carriageReturn

/-- Characters that need no quotes consist of ordinary bytes. -/
lemma ordinary_of_mem_bytes {cs : List Char} (hcs : cs.any needsQuotes = false) {b : UInt8}
    (hb : b ∈ bytes cs) : Ordinary b := by
  obtain ⟨c, hc, hb⟩ := List.mem_flatMap.mp hb
  have hneeds : needsQuotes c = false := by
    rw [Bool.eq_false_iff]
    exact fun h => absurd (List.any_eq_true.mpr ⟨c, hc, h⟩) (by simp [hcs])
  simp only [needsQuotes, Bool.or_eq_false_iff, beq_eq_false_iff_ne] at hneeds
  obtain ⟨⟨⟨hcomma, hquote⟩, hreturn⟩, hfeed⟩ := hneeds
  refine ⟨?_, ?_, ?_, ?_⟩ <;> rintro rfl
  · exact hcomma (comma_mem_iff.mp hb)
  · exact hquote (quote_mem_iff.mp hb)
  · exact hfeed (lineFeed_mem_iff.mp hb)
  · exact hreturn (carriageReturn_mem_iff.mp hb)

/-! ## Fields -/

/-- Quotes are doubled in the parts of a text as they are in the whole. -/
lemma doubled_append (bs cs : List UInt8) : doubled (bs ++ cs) = doubled bs ++ doubled cs :=
  List.flatMap_append

/-- A text without quotes is the same when its quotes are doubled. -/
lemma doubled_eq_self {bs : List UInt8} (h : quote ∉ bs) : doubled bs = bs := by
  induction bs with
  | nil => rfl
  | cons b bs ih =>
    rw [List.mem_cons, not_or] at h
    rw [doubled_cons, if_neg (Ne.symm h.1), ih h.2, List.singleton_append]

/-- Quotes are doubled alike among characters and among bytes. -/
lemma bytes_flatMap_quotes (cs : List Char) :
    bytes (cs.flatMap fun c => if c = '"' then ['"', '"'] else [c]) = doubled (bytes cs) := by
  induction cs with
  | nil => rfl
  | cons c cs ih =>
    rw [List.flatMap_cons, bytes_append, ih, bytes_cons, doubled_append]
    by_cases hc : c = '"'
    · subst hc
      have hdoubled : doubled (String.utf8EncodeChar '"') = bytes ['"', '"'] := by decide
      rw [if_pos rfl, hdoubled]
    · rw [if_neg hc, doubled_eq_self fun h => hc (quote_mem_iff.mp h), bytes_cons, bytes_nil,
        List.append_nil]

/-- What is written for a field, with quotes or without, is a text of this field. -/
lemma fieldText_writeField (f : String) :
    FieldText (bytes (writeField f).toList) (encode f) := by
  rw [encode_eq_bytes]
  unfold writeField
  split
  case isTrue =>
    have hmark : bytes ['"'] = [quote] := by decide
    have hquoted : bytes (quotedField f.toList) =
        quote :: (doubled (bytes f.toList) ++ quote :: []) := by
      rw [quotedField, List.cons_append, ← List.singleton_append, bytes_append, bytes_append, hmark,
        bytes_flatMap_quotes, List.singleton_append]
    have htext : FieldText (bytes (quotedField f.toList)) (bytes f.toList ++ []) := by
      rw [hquoted]
      exact .quoted _ ⟨by simp, by simp⟩
    rwa [List.append_nil, ← String.toList_ofList (l := quotedField f.toList)] at htext
  case isFalse hneeds =>
    have hordinary : ∀ b ∈ bytes f.toList, Ordinary b :=
      fun b hb => ordinary_of_mem_bytes (Bool.eq_false_iff.mpr hneeds) hb
    refine .bare ⟨?_, ?_⟩
    · intro hhead
      exact (hordinary _ (List.mem_of_mem_head? hhead)).2.1 rfl
    · intro b hb
      obtain ⟨hcomma, -, hfeed, hreturn⟩ := hordinary b hb
      simp [inField, isLineBreak, hcomma, hfeed, hreturn]

/-- The line feeds within the fields. -/
def lineFeedsIn (fields : List String) : Nat :=
  (fields.flatMap String.toList).count '\n'

lemma lineFeedsIn_cons (f : String) (fs : List String) :
    lineFeedsIn (f :: fs) = f.toList.count '\n' + lineFeedsIn fs := by
  rw [lineFeedsIn, List.flatMap_cons, List.count_append, lineFeedsIn]

/-- The line feeds of two records together are those of the one and those of the other. -/
lemma lineFeedsIn_append (fields fields' : List String) :
    lineFeedsIn (fields ++ fields') = lineFeedsIn fields + lineFeedsIn fields' := by
  rw [lineFeedsIn, List.flatMap_append, List.count_append, lineFeedsIn, lineFeedsIn]

/-- A record has no line feeds exactly when none of its fields has one. -/
lemma lineFeedsIn_eq_zero_iff {fields : List String} :
    lineFeedsIn fields = 0 ↔ ∀ f ∈ fields, '\n' ∉ f.toList := by
  rw [lineFeedsIn, List.count_eq_zero, List.mem_flatMap]
  exact ⟨fun h f hf hfeed => h ⟨f, hf, hfeed⟩, fun h ⟨f, hf, hfeed⟩ => h f hf hfeed⟩

/-- Line feeds within a field are those within its text. -/
lemma FieldText.count_lineFeed {text field : List UInt8} (h : FieldText text field) :
    text.count lineFeed = field.count lineFeed := by
  have hquote : (quote == lineFeed) = false := rfl
  have hdoubled : ∀ bs : List UInt8, (doubled bs).count lineFeed = bs.count lineFeed := by
    intro bs
    induction bs with
    | nil => rfl
    | cons b bs ih =>
      rw [doubled_cons, List.count_append, ih]
      by_cases hb : b = quote
      · simp [hb, List.count_cons, hquote]
      · rw [if_neg hb, ← List.count_append, List.singleton_append]
  rcases h with h | ⟨inner, h⟩
  · rfl
  · simp [List.count_cons, hdoubled, hquote]

/-! ## Records -/

/-- Commas stand between the fields of a line: behind the first field comes a comma, then the
others. -/
lemma toList_line_cons (f g : String) (gs : List String) :
    (",".intercalate ((f :: g :: gs).map writeField)).toList =
      (writeField f).toList ++ ([','] ++ (",".intercalate ((g :: gs).map writeField)).toList) := by
  simp

/-- A written record starts with a quote, with a comma, or with its first field as it is. -/
lemma head?_line {f : String} {fs : List String} {c : Char}
    (hc : c ∈ (",".intercalate ((f :: fs).map writeField)).toList.head?) :
    c = '"' ∨ c = ',' ∨ c ∈ f.toList.head? ∧ f.toList.any needsQuotes = false := by
  have hfield : ∀ d ∈ (writeField f).toList.head?,
      d = '"' ∨ d ∈ f.toList.head? ∧ f.toList.any needsQuotes = false := by
    intro d hd
    unfold writeField at hd
    split at hd
    case isTrue =>
      rw [String.toList_ofList] at hd
      exact .inl (Option.some.inj hd).symm
    case isFalse hneeds => exact .inr ⟨hd, Bool.eq_false_iff.mpr hneeds⟩
  cases fs with
  | nil => exact (hfield c (by simpa using hc)).imp_right .inr
  | cons g gs =>
    rw [toList_line_cons, List.singleton_append] at hc
    cases hwritten : (writeField f).toList with
    | nil =>
      rw [hwritten] at hc
      exact .inr (.inl (Option.some.inj hc).symm)
    | cons d ds =>
      rw [hwritten] at hc hfield
      exact (hfield c hc).imp_right .inr

/-- Only a record of one empty field has nothing to write. -/
lemma eq_of_line_eq_empty {f : String} {fs : List String}
    (h : ",".intercalate ((f :: fs).map writeField) = "") : f = "" ∧ fs = [] := by
  cases fs with
  | nil =>
    rw [List.map_cons, List.map_nil, String.intercalate_singleton, writeField] at h
    split at h
    · have hlist := congrArg String.toList h
      rw [String.toList_ofList] at hlist
      cases hlist
    · exact ⟨h, rfl⟩
  | cons g gs =>
    have hlist := congrArg String.toList h
    simp at hlist

/-- The fields of a record are written one after the other. -/
lemma recordText_line (f : String) (fs : List String) :
    RecordText FieldText (bytes (",".intercalate ((f :: fs).map writeField)).toList)
      ((f :: fs).map encode) := by
  induction fs generalizing f with
  | nil =>
    rw [List.map_cons, List.map_nil, String.intercalate_singleton]
    exact .last (fieldText_writeField f)
  | cons g gs ih =>
    have hmark : bytes [','] = [comma] := by decide
    rw [toList_line_cons, bytes_append, bytes_append, hmark]
    exact .more (fieldText_writeField f) (ih g)

/-- A record is written as a text of its fields, with a line feed. -/
lemma exists_text_writeRecord (f : String) (fs : List String) : ∃ text,
    bytes (writeRecord (f :: fs)).toList = text ++ [lineFeed] ∧ text ≠ [] ∧
      RecordText FieldText text ((f :: fs).map encode) := by
  have hmark : bytes "\n".toList = [lineFeed] := by decide
  unfold writeRecord
  simp only
  rw [String.toList_append, bytes_append, hmark]
  split
  case isTrue hline =>
    obtain ⟨rfl, rfl⟩ := eq_of_line_eq_empty hline
    refine ⟨_, rfl, by decide, .last ?_⟩
    have hquotes : bytes "\"\"".toList = [quote, quote] := by decide
    rw [hquotes]
    exact .quoted [] ⟨by simp, by simp⟩
  case isFalse hline =>
    refine ⟨_, rfl, ?_, recordText_line f fs⟩
    intro hnil
    rw [← encode_eq_bytes] at hnil
    exact hline (encode_inj.mp hnil)

/-- Line feeds within a record are those within its fields. -/
lemma RecordText.count_lineFeed {text : List UInt8} {fields : List (List UInt8)}
    (h : RecordText FieldText text fields) :
    text.count lineFeed = fields.flatten.count lineFeed := by
  induction h with
  | last h => simpa using h.count_lineFeed
  | more h others ih =>
    have hcomma : (comma == lineFeed) = false := rfl
    simp [List.count_cons, h.count_lineFeed, ih, hcomma]

/-- Line feeds may be counted in the characters of the fields or in their bytes. -/
lemma count_lineFeed_encode (fields : List String) :
    (fields.map encode).flatten.count lineFeed = lineFeedsIn fields := by
  induction fields with
  | nil => rfl
  | cons f fs ih =>
    rw [List.map_cons, List.flatten_cons, List.count_append, ih, lineFeedsIn_cons, encode_eq_bytes,
      count_lineFeed_bytes]

/-- A written record has the line feeds within its fields and its own. -/
lemma count_lineFeed_writeRecord (f : String) (fs : List String) :
    (bytes (writeRecord (f :: fs)).toList).count lineFeed = lineFeedsIn (f :: fs) + 1 := by
  obtain ⟨text, hbytes, -, htext⟩ := exists_text_writeRecord f fs
  rw [hbytes, List.count_append, htext.count_lineFeed, count_lineFeed_encode]
  rfl

/-! ## Tables -/

/-- The records of a table with the rows that they are read in, behind some line feeds: a record
lies on the line after those of the records before it. -/
def rowsFrom (feeds : Nat) : List (List String) → List (Nat × List String)
  | [] => []
  | fields :: table => (feeds + 1, fields) :: rowsFrom (feeds + lineFeedsIn fields + 1) table

/-- A table is written record by record. -/
lemma toList_write (table : List (List String)) :
    (write table).toList = table.flatMap fun fields => (writeRecord fields).toList := by
  have hfold : ∀ s : String, (table.foldl (fun s fields => s ++ writeRecord fields) s).toList =
      s.toList ++ table.flatMap fun fields => (writeRecord fields).toList := by
    induction table with
    | nil => simp
    | cons fields table ih =>
      intro s
      rw [List.foldl_cons, ih, String.toList_append, List.flatMap_cons, List.append_assoc]
  exact hfold ""

/-- The records of a table where they stand behind some bytes. -/
def standings (before : List UInt8) : List (List String) → List Standing
  | [] => []
  | fields :: table =>
    ⟨before, fields.map encode⟩ :: standings (before ++ bytes (writeRecord fields).toList) table

/-- A written table is laid out record by record. -/
lemma laid_write {table : List (List String)} (hne : ∀ fields ∈ table, fields ≠ [])
    (before : List UInt8) :
    Laid before (bytes (write table).toList) (standings before table) := by
  rw [toList_write]
  induction table generalizing before with
  | nil => exact .done before
  | cons fields table ih =>
    obtain ⟨f, fs, rfl⟩ := List.exists_cons_of_ne_nil (hne _ List.mem_cons_self)
    obtain ⟨text, hbytes, htext, h⟩ := exists_text_writeRecord f fs
    have hrest := ih (fun fields hmem => hne fields (List.mem_cons_of_mem _ hmem))
      (before ++ text ++ [lineFeed])
    rw [List.flatMap_cons, bytes_append, standings, hbytes, List.append_assoc,
      ← List.append_assoc before]
    exact .record h htext rfl hrest

/-- The records of a written table with their lines. -/
lemma map_standings {table : List (List String)} (hne : ∀ fields ∈ table, fields ≠ [])
    (before : List UInt8) : (standings before table).map (fun st => (st.line, st.fields)) =
      (rowsFrom (before.count lineFeed) table).map encodeRow := by
  induction table generalizing before with
  | nil => rfl
  | cons fields table ih =>
    obtain ⟨f, fs, rfl⟩ := List.exists_cons_of_ne_nil (hne _ List.mem_cons_self)
    rw [standings, rowsFrom, List.map_cons, List.map_cons,
      ih fun fields hmem => hne fields (List.mem_cons_of_mem _ hmem), List.count_append,
      count_lineFeed_writeRecord, ← Nat.add_assoc]
    rfl

end Csv

end Spreadsheet
