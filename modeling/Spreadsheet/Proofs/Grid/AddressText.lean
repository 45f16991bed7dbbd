import Mathlib.Tactic.Common
import Spreadsheet.Grid.Address
import Spreadsheet.Proofs.Text.Characters

/-!
# Addresses read back from their texts

The text of an address is one or more capital letters, then one or more digits of which the first
is not zero.  Reading it gives the address again (`Address.read?_chars`): the letters name the
column in bijective base twenty-six, and the digits are the decimal numeral of the row.
-/

namespace Spreadsheet

/-! ## Column letters -/

namespace Column

/-- The letters of the columns are the capital letters, with the values one to twenty-six. -/
lemma letter_spec {d : Nat} (h : d < 26) :
    letterValue (letter d) = d + 1 ∧ (letter d).isUpper = true := by
  revert d
  decide

/-- The letters put in front of others make `n` the value to go on from. -/
lemma value_lettersOnto (n : Nat) (rest : List Char) :
    value (lettersOnto n rest) = rest.foldl (fun m c => 26 * m + letterValue c) n := by
  fun_induction lettersOnto n rest with
  | case1 rest => rfl
  | case2 n rest hn ih =>
    have hletter := (letter_spec (Nat.mod_lt (n - 1) (by decide : 0 < 26))).1
    have hvalue : 26 * ((n - 1) / 26) + ((n - 1) % 26 + 1) = n := by omega
    rw [ih, List.foldl_cons, hletter, hvalue]

/-- The letters put in front of others are capital ones. -/
lemma all_isUpper_lettersOnto (n : Nat) (rest : List Char) :
    (lettersOnto n rest).all Char.isUpper = rest.all Char.isUpper := by
  fun_induction lettersOnto n rest with
  | case1 rest => rfl
  | case2 n rest hn ih =>
    have hletter := (letter_spec (Nat.mod_lt (n - 1) (by decide : 0 < 26))).2
    rw [ih, List.all_cons, hletter, Bool.true_and]

/-- The letters of a column have the number of the column as their value. -/
lemma value_letters (column : Index) : value (letters column) = column.val := by
  rw [letters, value_lettersOnto, List.foldl_nil]

/-- The name of a column is written with capital letters only. -/
lemma all_isUpper_letters (column : Index) : (letters column).all Char.isUpper = true := by
  rw [letters, all_isUpper_lettersOnto, List.all_nil]

/-- A column is written with one letter at least, since there is no column zero. -/
lemma letters_ne_nil (column : Index) : letters column ≠ [] := by
  intro h
  have hvalue := value_letters column
  rw [h] at hvalue
  exact Nat.ne_of_lt column.pos hvalue

/-- A column is written with one or more capital letters. -/
lemma exists_letters_eq_cons (column : Index) : ∃ c cs, letters column = c :: cs ∧
    c.isUpper = true ∧ cs.all Char.isUpper = true := by
  obtain ⟨c, cs, hcs⟩ := List.exists_cons_of_ne_nil (letters_ne_nil column)
  have hupper := all_isUpper_letters column
  rw [hcs, List.all_cons, Bool.and_eq_true] at hupper
  exact ⟨c, cs, hcs, hupper⟩

/-- The letters of a column name are read as this column. -/
lemma read?_letters (column : Index) : read? (letters column) = some column := by
  rw [read?, if_pos (all_isUpper_letters column), value_letters, Index.ofNat?_val]

/-- A text that names a column is not empty: no letters name no column. -/
lemma ne_nil_of_read? {cs : List Char} {column : Index} (h : read? cs = some column) : cs ≠ [] := by
  rintro rfl
  cases h

end Column

/-! ## Row numerals -/

/-- A number in decimal notation is written with digits only. -/
lemma all_isDigit_toDigits (n : Nat) : (Nat.toDigits 10 n).all Char.isDigit = true := by
  rw [List.all_eq_true]
  intro c hc
  exact Nat.isDigit_of_mem_toDigits (by decide) (by decide) hc

/-- The numeral of a positive number has no leading zero. -/
lemma head?_toDigits_ne_zero {n : Nat} (hn : 0 < n) : (Nat.toDigits 10 n).head? ≠ some '0' := by
  induction n using Nat.strongRecOn with
  | _ n ih =>
    rw [Nat.toDigits_eq_if (by decide)]
    split
    case isTrue h =>
      have hdigit : ∀ d < 10, 0 < d → [Nat.digitChar d].head? ≠ some '0' := by decide
      exact hdigit n h hn
    case isFalse h =>
      have hne : Nat.toDigits 10 (n / 10) ≠ [] := Nat.toDigits_ne_nil
      obtain ⟨c, cs, hcs⟩ := List.exists_cons_of_ne_nil hne
      have hhead := ih (n / 10) (by omega) (by omega)
      rw [hcs] at hhead ⊢
      exact hhead

namespace Address

/-- An address is told by the numbers of its row and its column. -/
lemma eq_of_val_eq {a b : Address} (hrow : a.row.val = b.row.val)
    (hcolumn : a.column.val = b.column.val) : a = b := by
  cases a
  cases b
  rw [mk.injEq]
  exact ⟨Index.val_injective hrow, Index.val_injective hcolumn⟩

/-- Two numbers make an address exactly when they are those of its column and its row. -/
lemma ofNumbers?_eq_some_iff {column row : Nat} {a : Address} :
    ofNumbers? column row = some a ↔ a.column.val = column ∧ a.row.val = row := by
  obtain ⟨i, j⟩ := a
  simp only [ofNumbers?, Option.bind_eq_bind, Option.bind_eq_some_iff, Index.ofNat?_eq_some_iff]
  constructor
  · rintro ⟨j', hj, i', hi, h⟩
    cases h
    exact ⟨hj, hi⟩
  · rintro ⟨hj, hi⟩
    exact ⟨j, hj, i, hi, rfl⟩

/-- The decimal notation of a row, which has no leading zero, is read as this row. -/
lemma readRow?_toDigits (row : Index) : readRow? (Nat.toDigits 10 row.val) = some row := by
  rw [readRow?, if_pos ⟨all_isDigit_toDigits row.val, head?_toDigits_ne_zero row.pos⟩,
    Nat.ofDigitChars_ten_toDigits, Index.ofNat?_val]

/-- A text that names a row is one or more digits. -/
lemma digits_of_readRow? {cs : List Char} {row : Index} (h : readRow? cs = some row) :
    cs ≠ [] ∧ cs.all Char.isDigit = true := by
  unfold readRow? at h
  split at h
  case isFalse => cases h
  case isTrue hdigits =>
    refine ⟨?_, hdigits.1⟩
    rintro rfl
    cases h

/-- A text that reads as an address is one or more capital letters, which name the column, before
one or more digits. -/
lemma shape_of_read? {cs : List Char} {a : Address} (h : read? cs = some a) :
    ∃ letters digits, cs = letters ++ digits ∧ letters ≠ [] ∧ letters.all Char.isUpper = true ∧
      digits ≠ [] ∧ digits.all Char.isDigit = true ∧ Column.read? letters = some a.column := by
  simp only [read?, Option.bind_eq_bind, Option.bind_eq_some_iff] at h
  obtain ⟨column, hcolumn, row, hrow, ha⟩ := h
  cases ha
  obtain ⟨hne, hdigits⟩ := digits_of_readRow? hrow
  exact ⟨_, _, List.takeWhile_append_dropWhile.symm, Column.ne_nil_of_read? hcolumn,
    List.all_takeWhile, hne, hdigits, hcolumn⟩

/-- The text of an address is one word: letters with digits behind them. -/
lemma all_isWordChar_chars (a : Address) : a.chars.all Text.isWordChar = true := by
  rw [chars, List.all_append, Bool.and_eq_true, List.all_eq_true, List.all_eq_true]
  constructor
  · intro c hc
    exact Text.isWordChar_of_isUpper (List.all_eq_true.mp (Column.all_isUpper_letters _) c hc)
  · intro c hc
    exact Text.isWordChar_of_isDigit (List.all_eq_true.mp (all_isDigit_toDigits _) c hc)

/-- In the text of an address the letters end where the numeral starts, so that both can be told
apart. -/
lemma takeWhile_isUpper_chars (a : Address) :
    a.chars.takeWhile Char.isUpper = Column.letters a.column ∧
      a.chars.dropWhile Char.isUpper = Nat.toDigits 10 a.row.val := by
  have hletters := List.all_eq_true.mp (Column.all_isUpper_letters a.column)
  have hdigits := List.all_eq_true.mp (all_isDigit_toDigits a.row.val)
  obtain ⟨c, cs, hcs⟩ := List.exists_cons_of_ne_nil (Nat.toDigits_ne_nil (n := a.row.val) (b := 10))
  have hc : c.isUpper = false := Text.isUpper_of_isDigit (hdigits c (by simp [hcs]))
  rw [chars, List.takeWhile_append_of_pos hletters, List.dropWhile_append_of_pos hletters, hcs]
  simp [hc]

/-- The text of an address reads as this address. -/
theorem read?_chars (a : Address) : read? a.chars = some a := by
  obtain ⟨htake, hdrop⟩ := takeWhile_isUpper_chars a
  rw [read?, htake, hdrop, Column.read?_letters, readRow?_toDigits]
  rfl

end Address

end Spreadsheet
