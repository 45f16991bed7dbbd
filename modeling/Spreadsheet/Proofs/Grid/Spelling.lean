import Mathlib.Data.List.Induction
import Mathlib.Data.Nat.Digits.Defs
import Spreadsheet.Grid.Range
import Spreadsheet.Proofs.Grid.AddressText

/-!
# Addresses and their texts

Each address has one text.  Reading inverts writing (`Address.read?_chars`), and here writing is
shown to invert reading: the letters and the digits of a text that reads as an address are the ones
that its column and its row are written with (`Column.lettersOnto_foldl`,
`Address.toDigits_ofDigitChars`).

The main result, `Range.texts_correspond`, also says which texts read as an address, by their
characters and by the numbers that their letters and digits stand for (`Address.Spelling`), and
which texts read as a range.
-/

namespace Spreadsheet

/-! ## Column letters -/

namespace Column

/-- A capital letter is the letter of its value, which is that of a digit from one to twenty-six. -/
lemma letter_letterValue {c : Char} (h : c.isUpper = true) :
    1 ≤ letterValue c ∧ letterValue c ≤ 26 ∧ letter (letterValue c - 1) = c := by
  rw [Text.isUpper_iff] at h
  have hvalue : letterValue c = c.toNat - 64 := rfl
  refine ⟨by omega, by omega, ?_⟩
  have hcode : 65 + (letterValue c - 1) = c.toNat := by omega
  rw [letter, hcode, Char.ofNat_toNat]

/-- Writing the number of some letters writes the letters. -/
lemma lettersOnto_foldl {cs : List Char} (h : cs.all Char.isUpper = true) (m : Nat)
    (rest : List Char) :
    lettersOnto (cs.foldl (fun n c => 26 * n + letterValue c) m) rest =
      lettersOnto m (cs ++ rest) := by
  induction cs generalizing m with
  | nil => rfl
  | cons c cs ih =>
    rw [List.all_cons, Bool.and_eq_true] at h
    obtain ⟨hpos, hle, hletter⟩ := letter_letterValue h.1
    have hdiv : (26 * m + letterValue c - 1) / 26 = m := by omega
    have hmod : (26 * m + letterValue c - 1) % 26 = letterValue c - 1 := by omega
    rw [List.foldl_cons, ih h.2, lettersOnto, if_neg (by omega), hdiv, hmod, hletter,
      List.cons_append]

/-- The number that some letters stand for, with digits from one to twenty-six. -/
def number (letters : List Char) : Nat :=
  Nat.ofDigits 26 (letters.reverse.map fun c => c.toNat - 'A'.toNat + 1)

/-- Reading from the left gives letters the value that they have as digits. -/
lemma value_eq_number {cs : List Char} (h : cs.all Char.isUpper = true) : value cs = number cs := by
  induction cs using List.reverseRecOn with
  | nil => rfl
  | append_singleton cs c ih =>
    rw [List.all_append, List.all_cons, List.all_nil, Bool.and_true, Bool.and_eq_true] at h
    have hc := Text.isUpper_iff.mp h.2
    have hdigit : letterValue c = c.toNat - 'A'.toNat + 1 := by
      change c.toNat - 64 = c.toNat - 65 + 1
      omega
    have hvalue : value (cs ++ [c]) = 26 * value cs + letterValue c := by
      rw [value, List.foldl_append]
      rfl
    rw [hvalue, ih h.1, number, number, List.reverse_append, List.reverse_singleton,
      List.singleton_append, List.map_cons, Nat.ofDigits_cons, hdigit, Nat.add_comm]

/-- Capital letters are read as the column with their number, and nothing else is read as a column.
-/
lemma read?_eq_some_iff {cs : List Char} {column : Index} : read? cs = some column ↔
    cs.all Char.isUpper = true ∧ number cs = column.val := by
  unfold read?
  split
  case isTrue h => rw [Index.ofNat?_eq_some_iff, eq_comm, and_iff_right h, value_eq_number h]
  case isFalse h => exact iff_of_false (Option.some_ne_none column).symm fun h' => h h'.1

/-- Letters that name a column are the letters of that column. -/
lemma letters_of_read? {cs : List Char} {column : Index} (h : read? cs = some column) :
    letters column = cs := by
  obtain ⟨hupper, hnumber⟩ := read?_eq_some_iff.mp h
  rw [letters, ← hnumber, ← value_eq_number hupper, value, lettersOnto_foldl hupper,
    List.append_nil, lettersOnto, if_pos rfl]

end Column

/-! ## Row numerals -/

namespace Address

/-- A digit is the character that writes its value, which is below ten. -/
lemma digitChar_of_isDigit {c : Char} (h : c.isDigit = true) :
    c.toNat - '0'.toNat < 10 ∧ Nat.digitChar (c.toNat - '0'.toNat) = c := by
  have hc := Text.isDigit_iff.mp h
  have hlt : c.toNat - '0'.toNat < 10 := by
    change c.toNat - 48 < 10
    omega
  refine ⟨hlt, Char.toNat_inj.mp ?_⟩
  rw [Nat.toNat_digitChar_of_lt_ten hlt]
  change 48 + (c.toNat - 48) = c.toNat
  omega

/-- Digits behind a number that is not zero are the last digits of the number they make. -/
lemma toDigits_ofDigitChars_of_pos {cs : List Char} (h : cs.all Char.isDigit = true) {m : Nat}
    (hm : 0 < m) : Nat.toDigits 10 (Nat.ofDigitChars 10 cs m) = Nat.toDigits 10 m ++ cs := by
  induction cs generalizing m with
  | nil => rw [Nat.ofDigitChars_nil, List.append_nil]
  | cons c cs ih =>
    rw [List.all_cons, Bool.and_eq_true] at h
    obtain ⟨hlt, hchar⟩ := digitChar_of_isDigit h.1
    have hdigits := Nat.toDigits_append_toDigits (b := 10) (by decide) hm hlt
    rw [Nat.toDigits_of_lt_base hlt, hchar] at hdigits
    rw [Nat.ofDigitChars_cons, ih h.2 (by omega), ← hdigits, List.append_assoc,
      List.singleton_append]

/-- Digits without a leading zero are the numeral of the number they make. -/
lemma toDigits_ofDigitChars {cs : List Char} (h : cs.all Char.isDigit = true) (hne : cs ≠ [])
    (hzero : cs.head? ≠ some '0') : Nat.toDigits 10 (Nat.ofDigitChars 10 cs 0) = cs := by
  obtain ⟨c, cs, rfl⟩ := List.exists_cons_of_ne_nil hne
  rw [List.all_cons, Bool.and_eq_true] at h
  obtain ⟨hlt, hchar⟩ := digitChar_of_isDigit h.1
  have hpos : 0 < c.toNat - '0'.toNat := by
    rw [Nat.pos_iff_ne_zero]
    intro heq
    rw [heq] at hchar
    exact hzero (congrArg some hchar.symm)
  rw [Nat.ofDigitChars_cons, Nat.mul_zero, Nat.zero_add, toDigits_ofDigitChars_of_pos h.2 hpos,
    Nat.toDigits_of_lt_base hlt, hchar, List.singleton_append]

/-- The number that some digits stand for. -/
def numeral (digits : List Char) : Nat :=
  Nat.ofDigits 10 (digits.reverse.map fun c => c.toNat - '0'.toNat)

/-- Reading from the left gives digits the value of the numeral. -/
lemma ofDigitChars_eq_numeral (cs : List Char) : Nat.ofDigitChars 10 cs 0 = numeral cs := by
  induction cs using List.reverseRecOn with
  | nil => rfl
  | append_singleton cs c ih =>
    rw [Nat.ofDigitChars_append, ih, Nat.ofDigitChars_cons, Nat.ofDigitChars_nil, numeral, numeral,
      List.reverse_append, List.reverse_singleton, List.singleton_append, List.map_cons,
      Nat.ofDigits_cons, Nat.add_comm]

/-! ## Addresses -/

/-- One or more capital letters before one or more digits, of which the first is not zero. -/
structure Spelling (letters digits : List Char) : Prop where
  letters_ne_nil : letters ≠ []
  letter : ∀ c ∈ letters, 'A' ≤ c ∧ c ≤ 'Z'
  digits_ne_nil : digits ≠ []
  digit : ∀ c ∈ digits, '0' ≤ c ∧ c ≤ '9'
  no_leading_zero : digits.head? ≠ some '0'

/-- Capital letters are those from `A` to `Z`: no letter beyond these counts. -/
lemma all_isUpper_iff {cs : List Char} :
    cs.all Char.isUpper = true ↔ ∀ c ∈ cs, 'A' ≤ c ∧ c ≤ 'Z' := by
  rw [List.all_eq_true]
  exact forall₂_congr fun c _ => Text.isUpper_iff

/-- Digits are those from `0` to `9`: no digit beyond these counts. -/
lemma all_isDigit_iff {cs : List Char} :
    cs.all Char.isDigit = true ↔ ∀ c ∈ cs, '0' ≤ c ∧ c ≤ '9' := by
  rw [List.all_eq_true]
  exact forall₂_congr fun c _ => Text.isDigit_iff

/-- A row is read from the numeral with its number, without a leading zero. -/
lemma readRow?_eq_some_iff {cs : List Char} {row : Index} : readRow? cs = some row ↔
    (cs.all Char.isDigit = true ∧ cs.head? ≠ some '0') ∧ numeral cs = row.val := by
  rw [readRow?, ← ofDigitChars_eq_numeral]
  split
  case isTrue h => rw [Index.ofNat?_eq_some_iff, eq_comm, and_iff_right h]
  case isFalse h => exact iff_of_false (Option.some_ne_none row).symm fun h' => h h'.1

/-- A text reads as an address when it starts with letters that name the column and ends with digits
that name the row. -/
lemma read?_eq_some_iff_append {cs : List Char} {a : Address} : read? cs = some a ↔
    ∃ letters digits, cs = letters ++ digits ∧ Column.read? letters = some a.column ∧
      readRow? digits = some a.row := by
  constructor
  · intro h
    simp only [read?, Option.bind_eq_bind, Option.bind_eq_some_iff] at h
    obtain ⟨column, hcolumn, row, hrow, ha⟩ := h
    cases ha
    exact ⟨_, _, List.takeWhile_append_dropWhile.symm, hcolumn, hrow⟩
  · rintro ⟨letters, digits, rfl, hcolumn, hrow⟩
    have hletters := (Column.read?_eq_some_iff.mp hcolumn).1
    have hstop : ∀ c ∈ digits.head?, c.isUpper = false := by
      intro c hc
      have hdigits := List.all_eq_true.mp (digits_of_readRow? hrow).2
      exact Text.isUpper_of_isDigit (hdigits c (List.mem_of_mem_head? hc))
    rw [read?, Text.takeWhile_run hletters hstop, Text.dropWhile_run hletters hstop, hcolumn, hrow]
    rfl

/-- A text reads as an address exactly when it is the text of the address. -/
lemma read?_eq_some_iff {cs : List Char} {a : Address} : read? cs = some a ↔ a.chars = cs := by
  constructor
  · intro h
    obtain ⟨letters, digits, rfl, hcolumn, hrow⟩ := read?_eq_some_iff_append.mp h
    obtain ⟨hdigits, hnumeral⟩ := readRow?_eq_some_iff.mp hrow
    rw [chars, Column.letters_of_read? hcolumn, ← hnumeral, ← ofDigitChars_eq_numeral,
      toDigits_ofDigitChars hdigits.1 (digits_of_readRow? hrow).1 hdigits.2]
  · rintro rfl
    exact read?_chars a

/-- A text is read as an address exactly when it is the text of the address. -/
lemma ofText?_eq_some_iff {t : String} {a : Address} : ofText? t = some a ↔ a.text = t := by
  rw [ofText?, read?_eq_some_iff, text, ← String.toList_inj, String.toList_ofList]

/-- The characters of a text that reads as an address, and the numbers that they stand for. -/
lemma ofText?_eq_some_iff_spelling {t : String} {a : Address} : ofText? t = some a ↔
    ∃ letters digits, t.toList = letters ++ digits ∧ Spelling letters digits ∧
      Column.number letters = a.column.val ∧ numeral digits = a.row.val := by
  rw [ofText?, read?_eq_some_iff_append]
  constructor
  · rintro ⟨letters, digits, ht, hcolumn, hrow⟩
    obtain ⟨hletters, hnumber⟩ := Column.read?_eq_some_iff.mp hcolumn
    obtain ⟨hdigits, hnumeral⟩ := readRow?_eq_some_iff.mp hrow
    exact ⟨letters, digits, ht, ⟨Column.ne_nil_of_read? hcolumn, all_isUpper_iff.mp hletters,
      (digits_of_readRow? hrow).1, all_isDigit_iff.mp hdigits.1, hdigits.2⟩, hnumber, hnumeral⟩
  · rintro ⟨letters, digits, ht, hspelling, hnumber, hnumeral⟩
    refine ⟨letters, digits, ht, Column.read?_eq_some_iff.mpr ?_, readRow?_eq_some_iff.mpr ?_⟩
    · exact ⟨all_isUpper_iff.mpr hspelling.letter, hnumber⟩
    · exact ⟨⟨all_isDigit_iff.mpr hspelling.digit, hspelling.no_leading_zero⟩, hnumeral⟩

/-- The texts that read as an address are letters and digits whose numbers are both in reach of a
word. -/
lemma exists_ofText?_iff {t : String} : (∃ a, ofText? t = some a) ↔
    ∃ letters digits, t.toList = letters ++ digits ∧ Spelling letters digits ∧
      (1 ≤ Column.number letters ∧ Column.number letters ≤ 2 ^ 32 - 1) ∧
      1 ≤ numeral digits ∧ numeral digits ≤ 2 ^ 32 - 1 := by
  constructor
  · rintro ⟨a, ha⟩
    obtain ⟨letters, digits, ht, hspelling, hnumber, hnumeral⟩ :=
      ofText?_eq_some_iff_spelling.mp ha
    refine ⟨letters, digits, ht, hspelling, ?_, ?_⟩
    · rw [hnumber]
      exact ⟨a.column.pos, a.column.le_side⟩
    · rw [hnumeral]
      exact ⟨a.row.pos, a.row.le_side⟩
  · rintro ⟨letters, digits, ht, hspelling, ⟨hcolumn, hcolumn_le⟩, hrow, hrow_le⟩
    exact ⟨⟨⟨_, hrow, hrow_le⟩, ⟨_, hcolumn, hcolumn_le⟩⟩,
      ofText?_eq_some_iff_spelling.mpr ⟨letters, digits, ht, hspelling, rfl, rfl⟩⟩

/-- There is no colon in the text of an address, so that the corners of a range are told apart. -/
lemma colon_notMem_chars (a : Address) : ':' ∉ a.chars := by
  rw [chars, List.mem_append, not_or]
  constructor
  · intro hmem
    exact absurd (List.all_eq_true.mp (Column.all_isUpper_letters a.column) _ hmem) (by decide)
  · intro hmem
    exact absurd (List.all_eq_true.mp (all_isDigit_toDigits a.row.val) _ hmem) (by decide)

end Address

/-! ## Ranges -/

namespace Range

/-- A text with a colon reads as a range when the parts around the first colon read as addresses. -/
lemma read?_append_colon {cs ds : List Char} {r : Range} (h : ':' ∉ cs) :
    read? (cs ++ ':' :: ds) = some r ↔
      Address.read? cs = some r.first ∧ Address.read? ds = some r.last := by
  rw [read?, Text.dropWhile_ne_append h, Text.takeWhile_ne_append h]
  simp only [Option.bind_eq_bind, Option.bind_eq_some_iff]
  constructor
  · rintro ⟨first, hfirst, last, hlast, heq⟩
    cases heq
    exact ⟨hfirst, hlast⟩
  · rintro ⟨hfirst, hlast⟩
    exact ⟨r.first, hfirst, r.last, hlast, rfl⟩

/-- A text without a colon reads as a range when it reads as an address. -/
lemma read?_of_colon_notMem {cs : List Char} (h : ':' ∉ cs) :
    read? cs = (Address.read? cs).map single := by
  rw [read?, Text.dropWhile_ne_eq_nil h]

/-- A range is read from an address, as this one cell, or from two addresses with a colon between
them, as it stands. -/
lemma read?_eq_some_iff {cs : List Char} {r : Range} : read? cs = some r ↔
    (∃ a, Address.read? cs = some a ∧ r = single a) ∨
      ∃ first last, cs = first ++ ':' :: last ∧ Address.read? first = some r.first ∧
        Address.read? last = some r.last := by
  have hcolon : ∀ {ds : List Char} {a : Address}, Address.read? ds = some a → ':' ∉ ds := by
    intro ds a hread
    rw [← Address.read?_eq_some_iff.mp hread]
    exact Address.colon_notMem_chars a
  constructor
  · intro h
    by_cases hmem : ':' ∈ cs
    · obtain ⟨first, last, rfl, hfirst⟩ := List.eq_append_cons_of_mem hmem
      exact .inr ⟨first, last, rfl, (read?_append_colon hfirst).mp h⟩
    · rw [read?_of_colon_notMem hmem] at h
      obtain ⟨a, ha, rfl⟩ := Option.map_eq_some_iff.mp h
      exact .inl ⟨a, ha, rfl⟩
  · rintro (⟨a, ha, rfl⟩ | ⟨first, last, rfl, hfirst, hlast⟩)
    · rw [read?_of_colon_notMem (hcolon ha), ha]
      rfl
    · exact (read?_append_colon (hcolon hfirst)).mpr ⟨hfirst, hlast⟩

/-- The text that a range is written with is read as this range. -/
lemma ofText?_text (r : Range) : ofText? r.text = some r := by
  rw [ofText?, text, String.toList_ofList, chars,
    read?_append_colon (Address.colon_notMem_chars r.first)]
  exact ⟨Address.read?_chars r.first, Address.read?_chars r.last⟩

/-- A text is read as a range exactly when it is the text of an address or of two corners with a
colon between them. -/
lemma ofText?_eq_some_iff {t : String} {r : Range} : ofText? t = some r ↔
    (∃ a, Address.ofText? t = some a ∧ r = single a) ∨
      ∃ first last, t = first ++ ":" ++ last ∧ Address.ofText? first = some r.first ∧
        Address.ofText? last = some r.last := by
  rw [ofText?, read?_eq_some_iff]
  refine or_congr Iff.rfl ⟨?_, ?_⟩
  · rintro ⟨first, last, ht, hfirst, hlast⟩
    refine ⟨String.ofList first, String.ofList last, ?_, ?_, ?_⟩
    · rw [← String.toList_inj, ht]
      simp
    · rwa [Address.ofText?, String.toList_ofList]
    · rwa [Address.ofText?, String.toList_ofList]
  · rintro ⟨first, last, rfl, hfirst, hlast⟩
    exact ⟨first.toList, last.toList, by simp, hfirst, hlast⟩

/-- A text reads as an address exactly when it is one or more capital letters before a decimal
numeral without a leading zero, where the letters as a number in base twenty-six and the numeral are
both at least one and less than `2 ^ 32`; they are the column and the row of the address.  Writing
the address gives the text again, and reading the text of an address gives the address.  The texts
that read as a range are those of its corners joined by one colon, and the texts of addresses, which
read as the range of one cell; and reading the text of a range gives the range, which may be
reversed. -/
theorem texts_correspond :
    (∀ t : String, (∃ a, Address.ofText? t = some a) ↔
      ∃ letters digits, t.toList = letters ++ digits ∧ Address.Spelling letters digits ∧
        (1 ≤ Column.number letters ∧ Column.number letters ≤ 2 ^ 32 - 1) ∧
        1 ≤ Address.numeral digits ∧ Address.numeral digits ≤ 2 ^ 32 - 1) ∧
    (∀ (t : String) (a : Address), Address.ofText? t = some a ↔
      ∃ letters digits, t.toList = letters ++ digits ∧ Address.Spelling letters digits ∧
        Column.number letters = a.column.val ∧ Address.numeral digits = a.row.val) ∧
    (∀ (t : String) (a : Address), Address.ofText? t = some a → a.text = t) ∧
    (∀ a : Address, Address.ofText? a.text = some a) ∧
    (∀ (t : String) (r : Range), ofText? t = some r ↔
      (∃ a, Address.ofText? t = some a ∧ r = single a) ∨
        ∃ first last, t = first ++ ":" ++ last ∧ Address.ofText? first = some r.first ∧
          Address.ofText? last = some r.last) ∧
    ∀ r : Range, ofText? r.text = some r :=
  ⟨fun _ => Address.exists_ofText?_iff, fun _ _ => Address.ofText?_eq_some_iff_spelling,
    fun _ _ => Address.ofText?_eq_some_iff.mp, fun _ => Address.ofText?_eq_some_iff.mpr rfl,
    fun _ _ => ofText?_eq_some_iff, ofText?_text⟩

/-- The last address of the grid, and two texts just beyond it. -/
theorem texts_correspond_lastAddress :
    let last : Address := ⟨⟨gridSide, by decide, by decide⟩, ⟨gridSide, by decide, by decide⟩⟩
    Address.ofText? "MWLQKWU4294967295" = some last ∧ last.text = "MWLQKWU4294967295" ∧
      Address.ofText? "MWLQKWV1" = none ∧ Address.ofText? "A4294967296" = none := by
  intro last
  obtain ⟨-, -, htext, -⟩ := texts_correspond
  have hread : Address.ofText? "MWLQKWU4294967295" = some last := by decide +kernel
  exact ⟨hread, htext _ _ hread, by decide +kernel, by decide +kernel⟩

end Range

end Spreadsheet
