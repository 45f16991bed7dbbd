import Mathlib.Tactic.Common
import Spreadsheet.Json.Token
import Spreadsheet.Json.Writing
import Spreadsheet.Proofs.Text.Characters

/-!
# Splitting written JSON into tokens

A written string is read as it was (`scanString_flatMap_escape`), and a number or a word ends in
front of a mark. `SplitsBefore P cs tokens` says that the characters are split into the tokens when
the rest of the text satisfies `P`: behind a mark or a string anything may follow (`Splits`), behind
a number or a word only the end of the text or a mark (`SplitsAtEnd`). A text is built up token by
token, with one rule for each kind of token (`Splits.mark`, `Splits.quote`, `Splits.number`,
`Splits.word`, and `SplitsAtEnd.mark` for what ends a value).
-/

namespace Spreadsheet

namespace Json

/-! ## Strings -/

section Strings

variable {acc : List Char} {wellFormed : Bool} {rest : List Char}

/-- An escape of two characters stands for the character that it names. -/
lemma scanString_escaped {c d : Char} (h : escaped? c = some d) (hc : c ≠ 'u') :
    scanString acc wellFormed ('\\' :: c :: rest) = scanString (d :: acc) wellFormed rest := by
  simp [scanString, h, hc]

/-- Any character but a quote, a backslash or a control character stands for itself. -/
lemma scanString_plain {c : Char} (hquote : c ≠ '"') (hslash : c ≠ '\\') (h : ¬c.toNat < 0x20) :
    scanString acc wellFormed (c :: rest) = scanString (c :: acc) wellFormed rest := by
  simp [scanString, hslash, h]

/-- An escape by code point stands for its character, unless that is half of a surrogate pair. -/
lemma scanString_unit {a b c d : Char} {unit : Nat} (h : hexUnit? a b c d = some unit)
    (hhigh : isHighHalf unit = false) (hlow : isLowHalf unit = false) :
    scanString acc wellFormed ('\\' :: 'u' :: a :: b :: c :: d :: rest) =
      scanString (Char.ofNat unit :: acc) wellFormed rest := by
  -- Reading looks at what follows to find the second half of a pair.
  by_cases hpair : ∃ e f g i more, rest = '\\' :: 'u' :: e :: f :: g :: i :: more
  · obtain ⟨e, f, g, i, more, rfl⟩ := hpair
    simp [scanString, h, hhigh, hlow]
  · rw [scanString]
    · simp [h, hhigh, hlow]
    · intro e f g i more hrest
      exact hpair ⟨e, f, g, i, more, hrest⟩

/-- A control character without a letter of its own is escaped by its code point. -/
lemma scanString_control {c : Char} (h : c.toNat < 0x20) :
    scanString acc wellFormed
        ('\\' :: 'u' :: '0' :: '0' :: hexChar (c.toNat / 16) :: hexChar (c.toNat % 16) :: rest) =
      scanString (c :: acc) wellFormed rest := by
  have hunit : ∀ n < 0x20, hexUnit? '0' '0' (hexChar (n / 16)) (hexChar (n % 16)) = some n := by
    decide
  have hhigh : isHighHalf c.toNat = false := by
    rw [isHighHalf, Bool.and_eq_false_iff, decide_eq_false_iff_not]
    omega
  have hlow : isLowHalf c.toNat = false := by
    rw [isLowHalf, Bool.and_eq_false_iff, decide_eq_false_iff_not]
    omega
  rw [scanString_unit (hunit c.toNat h) hhigh hlow, Char.ofNat_toNat]

/-- What writes a character is read as the character. -/
lemma scanString_escape (c : Char) : scanString acc wellFormed (escape c ++ rest) =
    scanString (c :: acc) wellFormed rest := by
  by_cases hshort : c ∈ ['"', '\\', '\x08', '\x0c', '\n', '\r', '\t']
  · simp only [List.mem_cons, List.not_mem_nil, or_false] at hshort
    rcases hshort with rfl | rfl | rfl | rfl | rfl | rfl | rfl <;>
      exact scanString_escaped rfl (by decide)
  · simp only [List.mem_cons, List.not_mem_nil, or_false, not_or] at hshort
    obtain ⟨hquote, hslash, hb, hf, hn, hr, ht⟩ := hshort
    rw [escape, if_neg hquote, if_neg hslash]
    by_cases hcontrol : c.toNat < 0x20
    · rw [if_pos hcontrol, if_neg hb, if_neg hf, if_neg hn, if_neg hr, if_neg ht]
      exact scanString_control hcontrol
    · rw [if_neg hcontrol]
      exact scanString_plain hquote hslash hcontrol

/-- What writes a string is read as the string, up to the closing quote. -/
lemma scanString_flatMap_escape (cs : List Char) :
    scanString acc wellFormed (cs.flatMap escape ++ '"' :: rest) =
      some (acc.reverse ++ cs, wellFormed, rest) := by
  induction cs generalizing acc with
  | nil => rw [List.flatMap_nil, List.nil_append, scanString, List.append_nil]
  | cons c cs ih =>
    rw [List.flatMap_cons, List.append_assoc, scanString_escape, ih, List.reverse_cons,
      List.append_assoc, List.singleton_append]

end Strings

/-! ## Numbers -/

/-- Every digit is one of the characters that a number may be written with. -/
lemma isNumberChar_of_isDigit {c : Char} (h : c.isDigit = true) : isNumberChar c = true := by
  simp [isNumberChar, h]

/-- One or more digits are written with characters of numbers. -/
lemma all_isNumberChar_of_isDigits {cs : List Char} (h : isDigits cs = true) :
    cs.all isNumberChar = true := by
  rw [isDigits, Bool.and_eq_true, List.all_eq_true] at h
  rw [List.all_eq_true]
  exact fun c hc => isNumberChar_of_isDigit (h.2 c hc)

/-- An exponent is missing, or a mark with an optional sign and digits. -/
lemma eq_nil_or_exists_of_isExponent {cs : List Char} (h : isExponent cs = true) :
    cs = [] ∨ ∃ mark sign ds, cs = mark :: (sign ++ ds) ∧ (mark = 'e' ∨ mark = 'E') ∧
      (sign = [] ∨ sign = ['+'] ∨ sign = ['-']) ∧ isDigits ds = true := by
  unfold isExponent at h
  split at h
  case h_1 => exact .inl rfl
  all_goals rw [Bool.and_eq_true, Bool.or_eq_true, beq_iff_eq, beq_iff_eq] at h
  case h_2 mark ds => exact .inr ⟨mark, ['+'], ds, rfl, h.1, .inr (.inl rfl), h.2⟩
  case h_3 mark ds => exact .inr ⟨mark, ['-'], ds, rfl, h.1, .inr (.inr rfl), h.2⟩
  case h_4 mark ds _ _ => exact .inr ⟨mark, [], ds, rfl, h.1, .inl rfl, h.2⟩

/-- An exponent consists of characters of numbers. -/
lemma all_isNumberChar_of_isExponent {cs : List Char} (h : isExponent cs = true) :
    cs.all isNumberChar = true := by
  rcases eq_nil_or_exists_of_isExponent h with rfl | ⟨mark, sign, ds, rfl, hmark, hsign, hds⟩
  · rfl
  · have hsigned : sign.all isNumberChar = true := by
      rcases hsign with rfl | rfl | rfl <;> rfl
    have hmarked : isNumberChar mark = true := by
      rcases hmark with rfl | rfl <;> rfl
    rw [List.all_cons, List.all_append, hmarked, hsigned, all_isNumberChar_of_isDigits hds]
    rfl

/-- No character of a number is white space, so a number is not broken in two. -/
lemma isSpace_of_isNumberChar {c : Char} (h : isNumberChar c = true) : isSpace c = false := by
  rw [Bool.eq_false_iff]
  intro hspace
  simp only [isSpace, Bool.or_eq_true, beq_iff_eq] at hspace
  rcases hspace with ((rfl | rfl) | rfl) | rfl <;> cases h

/-- Digits with characters of numbers behind them are characters of numbers throughout. -/
lemma all_isNumberChar_of_digits {cs : List Char}
    (hdigits : isDigits (cs.takeWhile Char.isDigit) = true)
    (hrest : (cs.dropWhile Char.isDigit).all isNumberChar = true) : cs.all isNumberChar = true := by
  rw [← @List.takeWhile_append_dropWhile _ Char.isDigit cs, List.all_append,
    all_isNumberChar_of_isDigits hdigits, hrest]
  rfl

/-- Decimals and their point are characters of numbers. -/
lemma all_isNumberChar_of_isFraction {cs : List Char} (h : isFraction cs = true) :
    cs.all isNumberChar = true := by
  unfold isFraction at h
  split at h
  case h_1 cs =>
    rw [Bool.and_eq_true] at h
    rw [List.all_cons, all_isNumberChar_of_digits h.1 (all_isNumberChar_of_isExponent h.2)]
    rfl
  case h_2 => exact all_isNumberChar_of_isExponent h

/-- A number without a sign consists of characters of numbers. -/
lemma all_isNumberChar_of_isUnsignedNumber {cs : List Char} (h : isUnsignedNumber cs = true) :
    cs.all isNumberChar = true := by
  unfold isUnsignedNumber at h
  split at h
  case h_1 cs =>
    rw [List.all_cons, all_isNumberChar_of_isFraction h]
    rfl
  case h_2 =>
    rw [Bool.and_eq_true] at h
    exact all_isNumberChar_of_digits h.1 (all_isNumberChar_of_isFraction h.2)

/-- A number is written with number characters, one or more of them. -/
lemma exists_cons_of_isNumber {cs : List Char} (h : isNumber cs = true) :
    ∃ c ds, cs = c :: ds ∧ isNumberChar c = true ∧ ds.all isNumberChar = true := by
  have hall : cs.all isNumberChar = true := by
    unfold isNumber at h
    split at h
    case h_1 cs =>
      rw [List.all_cons, all_isNumberChar_of_isUnsignedNumber h]
      rfl
    case h_2 => exact all_isNumberChar_of_isUnsignedNumber h
  cases cs with
  | nil => exact absurd h (by decide)
  | cons c ds =>
    rw [List.all_cons, Bool.and_eq_true] at hall
    exact ⟨c, ds, rfl, hall.1, hall.2⟩

/-! ## Tokens -/

/-- The text is at its end, or goes on with a mark that may stand behind a value. -/
def Ends (rest : List Char) : Prop :=
  ∀ c ∈ rest.head?, c ∈ [',', ']', '\x7d']

/-- A value may stand at the end of the text, with nothing behind it. -/
lemma ends_nil : Ends [] := by
  simp [Ends]

/-- A value may stand in front of a comma or of a closing bracket. -/
lemma ends_cons {c : Char} {rest : List Char} (h : c ∈ [',', ']', '\x7d']) : Ends (c :: rest) := by
  simpa [Ends] using h

/-- What may stand behind a value is in no class of characters that excludes the three marks. -/
lemma Ends.not {p : Char → Bool} {rest : List Char} (h : Ends rest) (hcomma : p ',' = false)
    (harray : p ']' = false) (hobject : p '\x7d' = false) : ∀ c ∈ rest.head?, p c = false := by
  intro c hc
  have hmem := h c hc
  simp only [List.mem_cons, List.not_mem_nil, or_false] at hmem
  rcases hmem with rfl | rfl | rfl <;> assumption

variable {rest : List Char}

/-- A mark is a token by itself, whatever follows it. -/
lemma firstToken?_mark {c : Char} {token : Token} (h : mark? c = some token) :
    firstToken? c rest = some (token, rest) := by
  rw [firstToken?, h]

/-- A string written with its escapes and quotes is one token, whatever follows it. -/
lemma firstToken?_string (cs : List Char) : firstToken? '"' (cs.flatMap escape ++ '"' :: rest) =
    some (.string (some (String.ofList cs)), rest) := by
  rw [firstToken?, scanString_flatMap_escape]
  rfl

/-- A mark is neither a character of numbers nor white space. -/
lemma not_class_of_mark? {c : Char} {token : Token} (h : mark? c = some token) :
    isNumberChar c = false ∧ isSpace c = false := by
  unfold mark? at h
  split at h
  case h_7 => cases h
  all_goals exact ⟨rfl, rfl⟩

/-- A written number is one token, if what follows does not go on with it. -/
lemma firstToken?_number {c : Char} {cs : List Char} (h : isNumber (c :: cs) = true)
    (hrest : Ends rest) :
    firstToken? c (cs ++ rest) = some (.number (String.ofList (c :: cs)), rest) := by
  obtain ⟨d, ds, heq, hc, hcs⟩ := exists_cons_of_isNumber h
  cases heq
  have hmark : mark? c = none := by
    rw [Option.eq_none_iff_forall_ne_some]
    intro token hmark
    rw [(not_class_of_mark? hmark).1] at hc
    cases hc
  have hquote : c ≠ '"' := by
    rintro rfl
    cases hc
  have hstop := hrest.not (p := isNumberChar) rfl rfl rfl
  rw [firstToken?, hmark]
  dsimp only
  rw [if_neg hquote, if_pos hc, Text.takeWhile_run hcs hstop, Text.dropWhile_run hcs hstop,
    if_pos h]

/-- A word is letters, of which the first starts no other token. -/
lemma exists_cons_of_word? {cs : List Char} {token : Token} (h : word? cs = some token) :
    ∃ c ds, cs = c :: ds ∧ (mark? c = none ∧ c ≠ '"' ∧ isNumberChar c = false ∧ isSpace c = false) ∧
      ds.all Char.isAlpha = true := by
  unfold word? at h
  split at h
  case isTrue hnull => exact ⟨'n', _, hnull, by decide, rfl⟩
  split at h
  case isTrue htrue => exact ⟨'t', _, htrue, by decide, rfl⟩
  split at h
  case isTrue hfalse => exact ⟨'f', _, hfalse, by decide, rfl⟩
  case isFalse => cases h

/-! ## Texts -/

/-- A token is found and the splitting goes on behind it. -/
lemma tokensAfter_cons {acc : List Token} {c : Char} {cs : List Char} {token : Token}
    (hspace : isSpace c = false) (h : firstToken? c cs = some (token, rest)) :
    tokensAfter acc (c :: cs) = tokensAfter (token :: acc) rest := by
  rw [tokensAfter, if_neg (by simp [hspace])]
  split <;> simp_all

/-- In front of certain texts the characters are split into the tokens. -/
def SplitsBefore (P : List Char → Prop) (cs : List Char) (tokens : List Token) : Prop :=
  ∀ rest, P rest → tokensAfter [] (cs ++ rest) = tokensAfter tokens.reverse rest

/-- The characters are split into the tokens, whatever follows. -/
abbrev Splits : List Char → List Token → Prop :=
  SplitsBefore fun _ => True

/-- The characters are split into the tokens, when what follows does not go on with the last one. -/
abbrev SplitsAtEnd : List Char → List Token → Prop :=
  SplitsBefore Ends

variable {P Q : List Char → Prop} {cs : List Char} {tokens : List Token}

/-- The empty text has no tokens. -/
lemma splits_nil : Splits [] [] :=
  fun _ _ => rfl

/-- Characters that are split whatever follows are split in front of what may stand behind a value.
-/
lemma Splits.atEnd (h : Splits cs tokens) : SplitsAtEnd cs tokens :=
  fun rest _ => h rest trivial

/-- A text that splits into tokens still does with one more token at its end, if the text may stand
in front of it. -/
lemma SplitsBefore.concat (h : SplitsBefore P cs tokens) {c : Char} {ds : List Char} {token : Token}
    (hspace : isSpace c = false)
    (hfirst : ∀ rest, Q rest → firstToken? c (ds ++ rest) = some (token, rest))
    (hP : ∀ rest, P (c :: rest)) : SplitsBefore Q (cs ++ c :: ds) (tokens ++ [token]) := by
  intro rest hrest
  rw [List.append_assoc, List.cons_append, h _ (hP _), tokensAfter_cons hspace (hfirst rest hrest),
    List.reverse_append, List.reverse_singleton, List.singleton_append]

/-- A text that splits into tokens still does with a mark at its end. -/
lemma Splits.mark (h : Splits cs tokens) {c : Char} {token : Token} (hc : mark? c = some token) :
    Splits (cs ++ [c]) (tokens ++ [token]) :=
  h.concat (not_class_of_mark? hc).2 (fun _ _ => firstToken?_mark hc) fun _ => trivial

/-- A mark that may follow a value ends what stands in front of it and is a token of its own. -/
lemma SplitsAtEnd.mark (h : SplitsAtEnd cs tokens) {c : Char} {token : Token}
    (hc : mark? c = some token) (hends : c ∈ [',', ']', '\x7d']) :
    Splits (cs ++ [c]) (tokens ++ [token]) :=
  h.concat (not_class_of_mark? hc).2 (fun _ _ => firstToken?_mark hc) fun _ => ends_cons hends

/-- A text that splits into tokens still does with a quoted string at its end. -/
lemma Splits.quote (h : Splits cs tokens) (s : String) :
    Splits (cs ++ (quote s).toList) (tokens ++ [.string (some s)]) := by
  have hquote : (Json.quote s).toList = '"' :: (s.toList.flatMap escape ++ ['"']) := by
    rw [Json.quote, String.toList_ofList, List.cons_append]
  rw [hquote]
  refine h.concat rfl (fun rest _ => ?_) fun _ => trivial
  rw [List.append_assoc, List.singleton_append, firstToken?_string, String.ofList_toList]

/-- A text that splits into tokens still does with a number at its end, as long as nothing goes on
with the number. -/
lemma Splits.number (h : Splits cs tokens) {written : String}
    (hwritten : isNumber written.toList = true) :
    SplitsAtEnd (cs ++ written.toList) (tokens ++ [.number written]) := by
  obtain ⟨c, ds, heq, hc, -⟩ := exists_cons_of_isNumber hwritten
  rw [heq] at hwritten ⊢
  refine h.concat (isSpace_of_isNumberChar hc) (fun rest hrest => ?_) fun _ => trivial
  rw [firstToken?_number hwritten hrest, ← heq, String.ofList_toList]

/-- A text that splits into tokens still does with a word at its end, as long as nothing goes on
with the word. -/
lemma Splits.word (h : Splits cs tokens) {word : List Char} {token : Token}
    (hword : word? word = some token) : SplitsAtEnd (cs ++ word) (tokens ++ [token]) := by
  obtain ⟨c, ds, rfl, ⟨hmark, hquote, hnumber, hspace⟩, hds⟩ := exists_cons_of_word? hword
  refine h.concat hspace (fun rest hrest => ?_) fun _ => trivial
  have hstop := hrest.not (p := Char.isAlpha) rfl rfl rfl
  rw [firstToken?, hmark]
  dsimp only
  rw [if_neg hquote, hnumber, if_neg Bool.false_ne_true, Text.takeWhile_run hds hstop,
    Text.dropWhile_run hds hstop, hword]
  rfl

end Json

end Spreadsheet
