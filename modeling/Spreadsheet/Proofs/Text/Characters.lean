import Mathlib.Tactic.Common
import Spreadsheet.Text.Blank
import Spreadsheet.Text.Word

/-!
# Classes of characters

The classes of ASCII characters as intervals of code points, and the two classes that reach beyond
ASCII: no character is both white space and part of a word (`isWordChar_of_isBlankChar`).
-/

namespace Spreadsheet

namespace Text

/-! ## ASCII -/

/-- Digits are the ASCII digits: other digits of Unicode are none. -/
lemma isDigit_iff {c : Char} : c.isDigit = true ↔ 48 ≤ c.toNat ∧ c.toNat ≤ 57 := by
  simp only [Char.isDigit, Bool.and_eq_true, decide_eq_true_eq, UInt32.le_iff_toNat_le, ge_iff_le]
  rfl

/-- Upper-case letters are the ASCII ones from `A` to `Z`. -/
lemma isUpper_iff {c : Char} : c.isUpper = true ↔ 65 ≤ c.toNat ∧ c.toNat ≤ 90 := by
  have hupper : c.isUpper = decide (65 ≤ c.toNat ∧ c.toNat ≤ 90) := rfl
  rw [hupper, decide_eq_true_eq]

/-- Lower-case letters are the ASCII ones from `a` to `z`. -/
lemma isLower_iff {c : Char} : c.isLower = true ↔ 97 ≤ c.toNat ∧ c.toNat ≤ 122 := by
  have hlower : c.isLower = (decide (97 ≤ c.toNat) && decide (c.toNat ≤ 122)) := rfl
  rw [hlower, Bool.and_eq_true, decide_eq_true_eq, decide_eq_true_eq]

lemma isAlpha_eq (c : Char) : c.isAlpha = (c.isUpper || c.isLower) := rfl

lemma isAlphanum_eq (c : Char) : c.isAlphanum = (c.isUpper || c.isLower || c.isDigit) := rfl

/-- The letters and digits that count here are ASCII characters, given by their code points. -/
lemma isAlphanum_iff {c : Char} : c.isAlphanum = true ↔
    (65 ≤ c.toNat ∧ c.toNat ≤ 90 ∨ 97 ≤ c.toNat ∧ c.toNat ≤ 122) ∨
      48 ≤ c.toNat ∧ c.toNat ≤ 57 := by
  rw [isAlphanum_eq, Bool.or_eq_true, Bool.or_eq_true, isUpper_iff, isLower_iff, isDigit_iff]

/-- No digit is a capital letter, so that the letters and the digits of an address are told apart.
-/
lemma isUpper_of_isDigit {c : Char} (h : c.isDigit = true) : c.isUpper = false := by
  rw [Bool.eq_false_iff, ne_eq, isUpper_iff]
  rw [isDigit_iff] at h
  omega

/-- No capital letter is a digit, so letters and digits can be told apart. -/
lemma isDigit_of_isUpper {c : Char} (h : c.isUpper = true) : c.isDigit = false := by
  rw [Bool.eq_false_iff, ne_eq, isDigit_iff]
  rw [isUpper_iff] at h
  omega

/-! ## Runs -/

section Runs

variable {p : Char → Bool} {run rest : List Char}

/-- A run ends in front of the first character outside its class. -/
lemma takeWhile_run (hall : run.all p = true) (hstop : ∀ c ∈ rest.head?, p c = false) :
    (run ++ rest).takeWhile p = run := by
  rw [List.takeWhile_append_of_pos (List.all_eq_true.mp hall)]
  cases rest with
  | nil => rw [List.takeWhile_nil, List.append_nil]
  | cons c rest => rw [List.takeWhile_cons_of_neg (by simp [hstop c rfl]), List.append_nil]

/-- A run of characters is dropped up to what stops it. -/
lemma dropWhile_run (hall : run.all p = true) (hstop : ∀ c ∈ rest.head?, p c = false) :
    (run ++ rest).dropWhile p = rest := by
  rw [List.dropWhile_append_of_pos (List.all_eq_true.mp hall)]
  cases rest with
  | nil => rfl
  | cons c rest => rw [List.dropWhile_cons_of_neg (by simp [hstop c rfl])]

/-- What is left starts with a character that stops the run. -/
lemma head?_dropWhile {c : Char} (hc : c ∈ (rest.dropWhile p).head?) : p c = false := by
  induction rest with
  | nil => cases hc
  | cons d rest ih =>
    cases hd : p d with
    | true => exact ih (by simpa [hd] using hc)
    | false =>
      obtain rfl : d = c := by simpa [hd] using hc
      exact hd

/-- A character that does not occur differs from every character that does. -/
lemma all_ne_of_notMem {c : Char} (h : c ∉ run) : run.all (· ≠ c) = true := by
  rw [List.all_eq_true]
  intro d hmem
  exact decide_eq_true fun hd => h (hd ▸ hmem)

/-- What stands in front of the first occurrence of a character. -/
lemma takeWhile_ne_append {c : Char} (h : c ∉ run) :
    (run ++ c :: rest).takeWhile (· ≠ c) = run :=
  takeWhile_run (all_ne_of_notMem h) (by simp)

/-- Characters are dropped up to the first occurrence of one. -/
lemma dropWhile_ne_append {c : Char} (h : c ∉ run) :
    (run ++ c :: rest).dropWhile (· ≠ c) = c :: rest :=
  dropWhile_run (all_ne_of_notMem h) (by simp)

/-- Dropping up to a character that does not occur drops everything. -/
lemma dropWhile_ne_eq_nil {c : Char} (h : c ∉ run) : run.dropWhile (· ≠ c) = [] := by
  rw [dropWhile_eq_nil_iff]
  exact all_ne_of_notMem h

end Runs

/-! ## Words and white space -/

/-- Letters and digits of ASCII are word characters. -/
lemma isWordChar_of_isAlphanum {c : Char} (h : c.isAlphanum = true) : isWordChar c = true := by
  have hc : c.toNat < 128 := by
    rw [isAlphanum_iff] at h
    omega
  simp only [isWordChar, hc, if_true, h, Bool.true_or]

/-- Digits are word characters. -/
lemma isWordChar_of_isDigit {c : Char} (h : c.isDigit = true) : isWordChar c = true :=
  isWordChar_of_isAlphanum (by simp [isAlphanum_eq, h])

/-- Capital letters are word characters. -/
lemma isWordChar_of_isUpper {c : Char} (h : c.isUpper = true) : isWordChar c = true :=
  isWordChar_of_isAlphanum (by simp [isAlphanum_eq, h])

/-- Tables of intervals that keep apart have no character in common. -/
lemma CodeRange.not_covers {table other : List CodeRange} {c : Char}
    (h : table.all (fun r => other.all fun q => r.2 < q.1 ∨ q.2 < r.1) = true)
    (hc : covers table c = true) : covers other c = false := by
  rw [covers, List.any_eq_true] at hc
  obtain ⟨⟨first, last⟩, hmem, hc⟩ := hc
  simp only [Bool.and_eq_true, decide_eq_true_eq] at hc
  have happart := List.all_eq_true.mp (List.all_eq_true.mp h _ hmem)
  rw [Bool.eq_false_iff, ne_eq, covers, List.any_eq_true]
  rintro ⟨⟨first', last'⟩, hmem', hc'⟩
  have hr := happart _ hmem'
  simp only [Bool.and_eq_true, decide_eq_true_eq] at hc' hr
  omega

/-- No white space is part of a word, so it keeps words apart. -/
lemma isWordChar_of_isBlankChar {c : Char} (h : isBlankChar c = true) : isWordChar c = false := by
  unfold isWordChar
  split
  case isFalse => exact CodeRange.not_covers (by decide +kernel) h
  case isTrue hc =>
    rw [Bool.eq_false_iff, ne_eq, Bool.or_eq_true, isAlphanum_iff, beq_iff_eq]
    rintro (halpha | rfl)
    · have hascii : CodeRange.covers [(65, 90), (97, 122), (48, 57)] c = false :=
        CodeRange.not_covers (by decide) h
      simp only [CodeRange.covers, List.any_cons, List.any_nil, Bool.or_eq_false_iff,
        Bool.and_eq_false_iff, decide_eq_false_iff_not] at hascii
      omega
    · exact absurd h (by decide)

/-- No word character is white space, so that a word keeps all of its characters when it is trimmed.
-/
lemma isBlankChar_of_isWordChar {c : Char} (h : isWordChar c = true) : isBlankChar c = false := by
  rw [Bool.eq_false_iff]
  intro hblank
  rw [isWordChar_of_isBlankChar hblank] at h
  cases h

/-! ## Trimming -/

/-- Dropping white space in front drops nothing else. -/
lemma filter_dropWhile_isBlankChar (cs : List Char) :
    (cs.dropWhile isBlankChar).filter (fun c => !isBlankChar c) =
      cs.filter fun c => !isBlankChar c := by
  induction cs with
  | nil => rfl
  | cons c cs ih => by_cases hc : isBlankChar c <;> simp [hc, ih]

/-- Trimming takes nothing but white space: all other characters stay, in their order. -/
lemma filter_trimChars (cs : List Char) :
    (trimChars cs).filter (fun c => !isBlankChar c) = cs.filter fun c => !isBlankChar c := by
  rw [trimChars, trimEnd, List.filter_reverse, filter_dropWhile_isBlankChar, List.filter_reverse,
    List.reverse_reverse, filter_dropWhile_isBlankChar]

/-- Trimming takes white space off both ends, and nothing else. -/
lemma exists_append_trimChars (cs : List Char) : ∃ before after,
    cs = before ++ trimChars cs ++ after ∧ before.all isBlankChar = true ∧
      after.all isBlankChar = true := by
  have hend : ∀ ds : List Char, ds = trimEnd ds ++ (ds.reverse.takeWhile isBlankChar).reverse := by
    intro ds
    rw [trimEnd, ← List.reverse_append, List.takeWhile_append_dropWhile, List.reverse_reverse]
  refine ⟨cs.takeWhile isBlankChar,
    ((cs.dropWhile isBlankChar).reverse.takeWhile isBlankChar).reverse, ?_, List.all_takeWhile, ?_⟩
  · rw [List.append_assoc, trimChars, ← hend, List.takeWhile_append_dropWhile]
  · rw [List.all_reverse]
    exact List.all_takeWhile

/-- What has no white space in it is left when the white space around it is trimmed. -/
lemma trimChars_append {before cs after : List Char} (hbefore : before.all isBlankChar = true)
    (hafter : after.all isBlankChar = true) (hcs : ∀ c ∈ cs, isBlankChar c = false) :
    trimChars (before ++ cs ++ after) = cs := by
  by_cases hnil : cs = []
  · rw [hnil, trimChars_eq_nil_iff, List.append_nil, List.all_append, hbefore, hafter]
    rfl
  · have hfirst : ∀ c ∈ (cs ++ after).head?, isBlankChar c = false := by
      intro c hc
      rw [List.head?_append, Option.or_of_isSome (List.isSome_head?.mpr hnil)] at hc
      exact hcs c (List.mem_of_mem_head? hc)
    have hlast : ∀ c ∈ cs.reverse.head?, isBlankChar c = false :=
      fun c hc => hcs c (List.mem_reverse.mp (List.mem_of_mem_head? hc))
    rw [trimChars, List.append_assoc, dropWhile_run hbefore hfirst, trimEnd, List.reverse_append,
      dropWhile_run (by rwa [List.all_reverse]) hlast, List.reverse_reverse]

/-- A text without white space is not changed by trimming. -/
lemma trimChars_eq_self {cs : List Char} (h : ∀ c ∈ cs, isBlankChar c = false) :
    trimChars cs = cs := by
  have happend := @trimChars_append [] cs [] rfl rfl h
  rwa [List.nil_append, List.append_nil] at happend

/-- A character that is no white space is left over. -/
lemma trim_ne_empty {s : String} {c : Char} (hmem : c ∈ s.toList) (hc : isBlankChar c = false) :
    trim s ≠ "" := by
  intro h
  have hnil : trimChars s.toList = [] := by
    rw [← toList_trim, h]
    rfl
  rw [trimChars_eq_nil_iff, List.all_eq_true] at hnil
  exact absurd (hnil c hmem) (by simp [hc])

/-- A character in front that is no white space shows after trimming. -/
lemma trim_cons_ne {c : Char} (hc : isBlankChar c = false) (cs : List Char) :
    trim (String.ofList (c :: cs)) ≠ trim (String.ofList cs) := by
  intro h
  have hlist := congrArg (fun s => s.toList.filter fun c => !isBlankChar c) h
  simp [filter_trimChars, hc] at hlist

end Text

end Spreadsheet
