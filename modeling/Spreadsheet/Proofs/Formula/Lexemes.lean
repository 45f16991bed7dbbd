import Mathlib.Tactic.Common
import Mathlib.Data.List.Basic
import Spreadsheet.Formula.Token
import Spreadsheet.Proofs.Text.Characters

/-!
# Lexemes of formulas

A lexeme is a token together with the characters that write it.  `Leads l rest` says, for each kind
of token, when a lexeme stands in front of other characters, and `Lexes cs ls` says that characters
are lexemes with white space between them.  `Token.first_eq_ok_iff` and `tokens_eq_ok_iff` show that
these relations are what the splitting of `Formula.Token` computes, so that facts about tokens
can be proved along the lexemes of a text, without offsets and accumulators.  There is at most one
way to split a text, and `lexemes` computes it (`Lexes.lexemes_eq`, `map_token_of_tokens`).
-/

namespace Spreadsheet

namespace Formula

/-- A token and the characters that write it. -/
structure Lexeme where
  token : Token
  chars : List Char

/-- The number that the characters name in formulas, infinities included. -/
def numeral? (cs : List Char) : Option Number :=
  (Decimal.read? cs).map (Binary.ofDecimal false)

open Token

/-! ## Marks and words -/

/-- The characters that marks start with. -/
def markChars : List Char :=
  ['+', '-', '*', '/', '&', '=', '<', '>', '(', ')', ',', ':']

/-- A mark starts with one of the characters of marks. -/
lemma mem_markChars {c : Char} {cs : List Char} {r : Token × Nat} (h : mark? c cs = some r) :
    c ∈ markChars := by
  unfold mark? at h
  split at h <;> cases h <;> simp [markChars]

/-- No mark starts like a word, white space, a text, a decimal or the mark of a lost reference. -/
lemma not_word_of_mem_markChars {c : Char} (h : c ∈ markChars) : Text.isWordChar c = false ∧
    Text.isBlankChar c = false ∧ c ≠ '"' ∧ c ≠ '.' ∧ c ≠ '#' := by
  have hall : (markChars.all fun c => !Text.isWordChar c && !Text.isBlankChar c &&
      c != '"' && c != '.' && c != '#') = true := by decide
  have hc := List.all_eq_true.mp hall c h
  simp only [Bool.and_eq_true, Bool.not_eq_true', bne_iff_ne, and_assoc] at hc
  exact hc

/-- A character that starts a name may also go on with one. -/
lemma isNameChar_of_isNameStart {c : Char} (h : isNameStart c = true) : isNameChar c = true := by
  simp only [isNameStart, isNameChar, Text.isAlpha_eq, Text.isAlphanum_eq, Bool.or_eq_true] at h ⊢
  exact h.elim (fun h => .inl (.inl h)) .inr

/-- The characters of names are word characters, so that a name never ends inside a word. -/
lemma isWordChar_of_isNameChar {c : Char} (h : isNameChar c = true) : Text.isWordChar c = true := by
  simp only [isNameChar, Bool.or_eq_true, beq_iff_eq] at h
  rcases h with h | rfl
  · exact Text.isWordChar_of_isAlphanum h
  · decide

/-- A name consists of word characters, so it is one word for the scan of references. -/
lemma all_isWordChar_of_name {c : Char} {cs : List Char} (start : isNameStart c = true)
    (all : cs.all isNameChar = true) : (c :: cs).all Text.isWordChar = true := by
  rw [List.all_cons, isWordChar_of_isNameChar (isNameChar_of_isNameStart start), Bool.true_and]
  exact List.all_eq_true.mpr fun d hd => isWordChar_of_isNameChar (List.all_eq_true.mp all d hd)

/-- Where a word stops, a name stops, since every character of a name is one of a word. -/
lemma not_isNameChar_of_not_isWordChar {c : Char} (h : Text.isWordChar c = false) :
    isNameChar c = false := by
  rw [Bool.eq_false_iff]
  intro hname
  rw [isWordChar_of_isNameChar hname] at h
  cases h

/-- Where a word stops, digits stop, since every digit is a word character. -/
lemma not_isDigit_of_not_isWordChar {c : Char} (h : Text.isWordChar c = false) :
    c.isDigit = false := by
  rw [Bool.eq_false_iff]
  intro hdigit
  rw [Text.isWordChar_of_isDigit hdigit] at h
  cases h

/-- A name may go on with digits, though it cannot start with one. -/
lemma isNameChar_of_isDigit {c : Char} (h : c.isDigit = true) : isNameChar c = true := by
  simp [isNameChar, Text.isAlphanum_eq, h]

/-- A name starts neither with a digit nor with a point. -/
lemma startsNumber_of_isNameStart {c : Char} (h : isNameStart c = true) (cs : List Char) :
    startsNumber c cs = false := by
  have hdigit : c.isDigit = false := by
    rw [Bool.eq_false_iff, ne_eq, Text.isDigit_iff]
    simp only [isNameStart, Text.isAlpha_eq, Bool.or_eq_true, Text.isUpper_iff, Text.isLower_iff,
      beq_iff_eq] at h
    rintro hdigit
    rcases h with (h | h) | rfl
    · omega
    · omega
    · exact absurd hdigit (by decide)
  have hpoint : (c == '.') = false := by
    rw [beq_eq_false_iff_ne]
    rintro rfl
    exact absurd h (by decide)
  simp only [startsNumber, hdigit, hpoint, Bool.false_and, Bool.or_self]

/-- A number starts with a digit, or with a point in front of one. -/
lemma isDigit_of_startsNumber {c : Char} {cs : List Char} (h : startsNumber c cs = true) :
    c.isDigit = true ∨ c = '.' := by
  simp only [startsNumber, Bool.or_eq_true, Bool.and_eq_true, beq_iff_eq] at h
  exact h.imp_right And.left

/-! ## Numbers -/

/-- An exponent, or nothing: a mark, an optional sign and digits. -/
inductive IsExponent : List Char → Prop where
  | none : IsExponent []
  | some {mark : Char} {sign digits : List Char} (mem : mark = 'e' ∨ mark = 'E')
    (optional : sign = [] ∨ sign = ['+'] ∨ sign = ['-']) (ne : digits ≠ [])
    (all : digits.all Char.isDigit = true) : IsExponent (mark :: sign ++ digits)

/-- Digits, an optional point with further digits, and an optional exponent. -/
inductive IsNumeral : List Char → Prop where
  | whole {digits exponent : List Char} (all : digits.all Char.isDigit = true)
    (exponential : IsExponent exponent) : IsNumeral (digits ++ exponent)
  | fraction {digits decimals exponent : List Char} (all : digits.all Char.isDigit = true)
    (all' : decimals.all Char.isDigit = true) (exponential : IsExponent exponent) :
    IsNumeral (digits ++ '.' :: (decimals ++ exponent))

/-- A mark, an optional sign and all digits behind them are an exponent. -/
lemma isExponent_takeWhile {mark d : Char} {sign : List Char} (cs : List Char)
    (optional : sign = [] ∨ sign = ['+'] ∨ sign = ['-'])
    (h : (mark = 'e' ∨ mark = 'E') ∧ d.isDigit = true) :
    IsExponent (mark :: sign ++ d :: cs.takeWhile Char.isDigit) ∧
      ∃ tail, mark :: sign ++ d :: cs = mark :: sign ++ d :: cs.takeWhile Char.isDigit ++ tail := by
  refine ⟨.some h.1 optional (List.cons_ne_nil _ _) (by simp [h.2]), cs.dropWhile Char.isDigit, ?_⟩
  simp

/-- What is taken as an exponent is one, or nothing, and stands in front of what is left. -/
lemma exponentPart_spec (cs : List Char) :
    IsExponent (exponentPart cs) ∧ ∃ tail, cs = exponentPart cs ++ tail := by
  unfold exponentPart
  split
  case h_1 mark d cs =>
    split
    case isTrue h => exact @isExponent_takeWhile mark d ['+'] cs (.inr (.inl rfl)) h
    case isFalse => exact ⟨.none, _, rfl⟩
  case h_2 mark d cs =>
    split
    case isTrue h => exact @isExponent_takeWhile mark d ['-'] cs (.inr (.inr rfl)) h
    case isFalse => exact ⟨.none, _, rfl⟩
  case h_3 mark d cs _ _ =>
    split
    case isTrue h => exact @isExponent_takeWhile mark d [] cs (.inl rfl) h
    case isFalse => exact ⟨.none, _, rfl⟩
  case h_4 => exact ⟨.none, _, rfl⟩

/-- Without an exponent mark in front there is no exponent. -/
lemma exponentPart_of_head {cs : List Char} (h : ∀ c ∈ cs.head?, c ≠ 'e' ∧ c ≠ 'E') :
    exponentPart cs = [] := by
  unfold exponentPart
  split <;> first | rfl | simp [h _ rfl]

/-- An exponent mark needs a digit behind it or behind its sign. -/
lemma exponentPart_of_second {mark c : Char} {cs : List Char} (hc : c.isDigit = false)
    (hplus : c ≠ '+') (hminus : c ≠ '-') : exponentPart (mark :: c :: cs) = [] := by
  unfold exponentPart
  split <;> simp_all

/-- An exponent is taken whole in front of anything that is no word character. -/
lemma exponentPart_append {exponent rest : List Char} (h : IsExponent exponent)
    (hrest : ∀ c ∈ rest.head?, Text.isWordChar c = false) :
    exponentPart (exponent ++ rest) = exponent := by
  have hdigit : ∀ c ∈ rest.head?, c.isDigit = false :=
    fun c hc => not_isDigit_of_not_isWordChar (hrest c hc)
  cases h with
  | none =>
    apply exponentPart_of_head
    intro c hc
    constructor <;> (rintro rfl; exact absurd (hrest _ hc) (by decide))
  | @some mark sign digits mem optional ne all =>
    obtain ⟨d, ds, rfl⟩ := List.exists_cons_of_ne_nil ne
    rw [List.all_cons, Bool.and_eq_true] at all
    have hds : (ds ++ rest).takeWhile Char.isDigit = ds := Text.takeWhile_run all.2 hdigit
    have hplus : d ≠ '+' := by
      rintro rfl
      exact absurd all.1 (by decide)
    have hminus : d ≠ '-' := by
      rintro rfl
      exact absurd all.1 (by decide)
    rcases optional with rfl | rfl | rfl
    · simp [exponentPart, mem, all.1, hds, hplus, hminus]
    · simp [exponentPart, mem, all.1, hds]
    · simp [exponentPart, mem, all.1, hds]

/-- What is taken as a number is a numeral, and stands in front of what is left. -/
lemma numberPart_spec (cs : List Char) :
    IsNumeral (numberPart cs) ∧ ∃ tail, cs = numberPart cs ++ tail := by
  have hcs : cs = cs.takeWhile Char.isDigit ++ cs.dropWhile Char.isDigit :=
    List.takeWhile_append_dropWhile.symm
  unfold numberPart
  split
  case h_1 rest hrest =>
    obtain ⟨hexponent, tail, htail⟩ := exponentPart_spec (rest.dropWhile Char.isDigit)
    refine ⟨?_, tail, ?_⟩
    · rw [List.append_assoc, List.cons_append]
      exact .fraction List.all_takeWhile List.all_takeWhile hexponent
    · have hrest' : rest = rest.takeWhile Char.isDigit ++ rest.dropWhile Char.isDigit :=
        List.takeWhile_append_dropWhile.symm
      simp only [List.append_assoc, List.cons_append, ← htail, ← hrest', ← hrest, ← hcs]
  case h_2 =>
    obtain ⟨hexponent, tail, htail⟩ := exponentPart_spec (cs.dropWhile Char.isDigit)
    refine ⟨.whole List.all_takeWhile hexponent, tail, ?_⟩
    rw [List.append_assoc, ← htail, ← hcs]

/-- A numeral is the longest one in front of what is neither a word character nor a point. -/
lemma numberPart_append {w rest : List Char} (h : IsNumeral w)
    (hword : ∀ c ∈ rest.head?, Text.isWordChar c = false) (hpoint : ∀ c ∈ rest.head?, c ≠ '.') :
    numberPart (w ++ rest) = w := by
  have hdigit : ∀ e, IsExponent e → ∀ c ∈ (e ++ rest).head?, c.isDigit = false ∧ c ≠ '.' := by
    intro e he c hc
    cases he with
    | none => exact ⟨not_isDigit_of_not_isWordChar (hword c hc), hpoint c hc⟩
    | @some mark sign ds mem optional ne all =>
      obtain rfl : mark = c := Option.some.inj hc
      rcases mem with rfl | rfl <;> decide
  cases h with
  | @whole digits exponent all exponential =>
    have hstop := hdigit exponent exponential
    rw [List.append_assoc]
    unfold numberPart
    rw [Text.takeWhile_run all fun c hc => (hstop c hc).1,
      Text.dropWhile_run all fun c hc => (hstop c hc).1]
    split
    case h_1 rest' hrest' => exact absurd rfl (hstop '.' (by rw [hrest']; rfl)).2
    case h_2 => rw [exponentPart_append exponential hword]
  | @fraction digits decimals exponent all all' exponential =>
    have hstop := hdigit exponent exponential
    have hpoint : ∀ c ∈ ('.' :: (decimals ++ (exponent ++ rest))).head?, c.isDigit = false := by
      rintro c ⟨⟩
      decide
    have hcs : digits ++ '.' :: (decimals ++ exponent) ++ rest =
        digits ++ '.' :: (decimals ++ (exponent ++ rest)) := by simp
    rw [hcs]
    unfold numberPart
    rw [Text.takeWhile_run all hpoint, Text.dropWhile_run all hpoint]
    simp only
    rw [Text.takeWhile_run all' fun c hc => (hstop c hc).1,
      Text.dropWhile_run all' fun c hc => (hstop c hc).1, exponentPart_append exponential hword]
    simp

/-! ## Quoted texts -/

/-- What follows the opening quote of a quoted text, the closing quote last. -/
inductive IsQuoted : List Char → Prop where
  | close : IsQuoted ['"']
  | doubled {cs : List Char} (others : IsQuoted cs) : IsQuoted ('"' :: '"' :: cs)
  | other {c : Char} {cs : List Char} (ne : c ≠ '"') (others : IsQuoted cs) : IsQuoted (c :: cs)

/-- Within quotes every other character is taken into the text. -/
lemma textPart_other {c : Char} (hc : c ≠ '"') (content cs : List Char) (taken : Nat) :
    textPart content taken (c :: cs) = textPart (c :: content) (taken + 1) cs := by
  rw [textPart]
  · rintro _ rfl _
    exact hc rfl
  · rintro rfl
    exact hc rfl

/-- A quote that is not followed by another one closes the text and is taken with it. -/
lemma textPart_close {rest : List Char} (hrest : ∀ c ∈ rest.head?, c ≠ '"') (content : List Char)
    (taken : Nat) : textPart content taken ('"' :: rest) = some (content.reverse, taken + 1) := by
  rw [textPart]
  rintro cs rfl
  exact hrest '"' rfl rfl

/-- What is taken as a text runs to its closing quote, behind which no other quote stands. -/
lemma textPart_spec {content cs result : List Char} {taken n : Nat}
    (h : textPart content taken cs = some (result, n)) :
    ∃ part rest, cs = part ++ rest ∧ n = taken + part.length ∧ IsQuoted part ∧
      ∀ c ∈ rest.head?, c ≠ '"' := by
  fun_induction textPart content taken cs with
  | case1 content taken cs ih =>
    obtain ⟨part, rest, rfl, rfl, hpart, hrest⟩ := ih h
    have hlength : taken + 2 + part.length = taken + ('"' :: '"' :: part).length := by
      simp only [List.length_cons]
      omega
    exact ⟨'"' :: '"' :: part, rest, rfl, hlength, .doubled hpart, hrest⟩
  | case2 content taken rest hne =>
    cases h
    refine ⟨['"'], rest, rfl, rfl, .close, ?_⟩
    intro c hc
    rintro rfl
    obtain ⟨cs, rfl⟩ := List.head?_eq_some_iff.mp hc
    exact hne cs rfl
  | case3 content taken c cs hne hne' ih =>
    obtain ⟨part, rest, rfl, rfl, hpart, hrest⟩ := ih h
    have hlength : taken + 1 + part.length = taken + (c :: part).length := by
      simp only [List.length_cons]
      omega
    exact ⟨c :: part, rest, rfl, hlength, .other hne' hpart, hrest⟩
  | case4 => cases h

/-- What a quoted text holds does not depend on what follows it. -/
lemma textPart_congr {part rest rest' : List Char} (h : IsQuoted part)
    (hrest : ∀ c ∈ rest.head?, c ≠ '"') (hrest' : ∀ c ∈ rest'.head?, c ≠ '"')
    (content : List Char) (taken : Nat) :
    textPart content taken (part ++ rest) = textPart content taken (part ++ rest') := by
  induction h generalizing content taken with
  | close => exact (textPart_close hrest _ _).trans (textPart_close hrest' _ _).symm
  | doubled others ih => exact ih _ _
  | other ne others ih =>
    rw [List.cons_append, List.cons_append, textPart_other ne, textPart_other ne]
    exact ih _ _

/-! ## Lexemes -/

/-- The lexeme stands in front of the other characters. -/
inductive Leads : Lexeme → List Char → Prop where
  | number {c : Char} {cs rest : List Char} {n : Number}
    (starts : startsNumber c (cs ++ rest) = true)
    (part : numberPart (c :: cs ++ rest) = c :: cs) (value : numeral? (c :: cs) = some n)
    (finite : n.isFinite = true) : Leads ⟨.number n, c :: cs⟩ rest
  | word {c : Char} {cs rest : List Char} (start : isNameStart c = true)
    (all : cs.all isNameChar = true) (stop : ∀ d ∈ rest.head?, isNameChar d = false) :
    Leads ⟨ofWord (c :: cs), c :: cs⟩ rest
  | text {cs rest content : List Char} (quoted : IsQuoted cs) (stop : ∀ d ∈ rest.head?, d ≠ '"')
    (part : textPart [] 0 (cs ++ rest) = some (content, cs.length)) :
    Leads ⟨.text (String.ofList content), '"' :: cs⟩ rest
  | mark {c : Char} {cs rest : List Char} {t : Token}
    (found : mark? c (cs ++ rest) = some (t, cs.length)) : Leads ⟨t, c :: cs⟩ rest

/-- A mark takes only characters that are there. -/
lemma mark?_spec {c : Char} {cs : List Char} {t : Token} {more : Nat}
    (h : mark? c cs = some (t, more)) : more ≤ cs.length := by
  unfold mark? at h
  split at h <;> cases h <;> simp

/-- The first token that is found is a lexeme in front of the characters left. -/
lemma Leads.of_first {c : Char} {cs : List Char} {t : Token} {more : Nat}
    (h : Token.first c cs = .ok (t, more)) :
    ∃ part rest, cs = part ++ rest ∧ more = part.length ∧ Leads ⟨t, c :: part⟩ rest := by
  unfold Token.first at h
  split at h
  case isTrue hstarts =>
    obtain ⟨-, tail, htail⟩ := numberPart_spec (c :: cs)
    simp only at h
    split at h
    case h_2 => cases h
    case h_1 negative rank hvalue =>
      cases h
      obtain ⟨d, part, hpart⟩ : ∃ d part, numberPart (c :: cs) = d :: part := by
        apply List.exists_cons_of_ne_nil
        intro hnil
        rw [hnil] at hvalue
        cases hvalue
      rw [hpart] at htail hvalue ⊢
      obtain ⟨rfl, rfl⟩ := List.cons.inj htail
      exact ⟨part, tail, rfl, rfl, .number hstarts hpart hvalue rfl⟩
  case isFalse hstarts =>
    split at h
    case isTrue hname =>
      cases h
      refine ⟨_, _, List.takeWhile_append_dropWhile.symm, rfl, .word hname List.all_takeWhile ?_⟩
      exact fun d hd => Text.head?_dropWhile hd
    case isFalse hname =>
      split at h
      case isTrue hquote =>
        subst hquote
        split at h
        case h_2 => cases h
        case h_1 content taken htext =>
          cases h
          obtain ⟨part, rest, rfl, hmore, hquoted, hstop⟩ := textPart_spec htext
          rw [Nat.zero_add] at hmore
          subst hmore
          exact ⟨part, rest, rfl, rfl, .text hquoted hstop htext⟩
      case isFalse hquote =>
        split at h
        case h_2 => cases h
        case h_1 result hmark =>
          cases h
          have hmore : (cs.take more).length = more := List.length_take_of_le (mark?_spec hmark)
          have hcs : cs = cs.take more ++ cs.drop more := (List.take_append_drop _ _).symm
          refine ⟨cs.take more, cs.drop more, hcs, hmore.symm, .mark ?_⟩
          rw [List.take_append_drop, hmark, hmore]

/-- A lexeme in front of other characters is the first token found. -/
lemma Leads.first {c : Char} {cs rest : List Char} {t : Token} (h : Leads ⟨t, c :: cs⟩ rest) :
    Token.first c (cs ++ rest) = .ok (t, cs.length) := by
  unfold Token.first
  cases h with
  | @number _ _ _ n starts part value finite =>
    rw [if_pos starts]
    cases n with
    | finite negative rank =>
      rw [numeral?] at value
      simp only [← List.cons_append, part, value, List.length_cons, Nat.add_sub_cancel]
    | infinite negative => cases finite
    | nan => cases finite
  | word start all stop =>
    rw [if_neg (by simp [startsNumber_of_isNameStart start]), if_pos start]
    simp only [Text.takeWhile_run all stop]
  | text quoted stop part => simp [startsNumber, isNameStart, part]
  | mark found =>
    obtain ⟨hword, -, hquote, hpoint, -⟩ := not_word_of_mem_markChars (mem_markChars found)
    have hstarts : startsNumber c (cs ++ rest) = false := by
      simp [startsNumber, not_isDigit_of_not_isWordChar hword, hpoint]
    have hname : isNameStart c = false := by
      rw [Bool.eq_false_iff]
      intro hname
      rw [isWordChar_of_isNameChar (isNameChar_of_isNameStart hname)] at hword
      cases hword
    simp only [hstarts, hname, hquote, found, if_false, Bool.false_eq_true]

/-- The characters are lexemes with white space between them. -/
inductive Lexes : List Char → List Lexeme → Prop where
  | nil : Lexes [] []
  | blank {c : Char} {cs : List Char} {ls : List Lexeme} (white : Text.isBlankChar c = true)
    (others : Lexes cs ls) : Lexes (c :: cs) ls
  | lexeme {l : Lexeme} {rest : List Char} {ls : List Lexeme} (leads : Leads l rest)
    (others : Lexes rest ls) : Lexes (l.chars ++ rest) (l :: ls)

/-- Each lexeme of a text leads what the text holds from some place on. -/
lemma Lexes.exists_leads {cs : List Char} {ls : List Lexeme} (h : Lexes cs ls) {l : Lexeme}
    (hl : l ∈ ls) : ∃ before rest, cs = before ++ (l.chars ++ rest) ∧ Leads l rest := by
  induction h with
  | nil => cases hl
  | @blank c cs ls white others ih =>
    obtain ⟨before, rest, rfl, leads⟩ := ih hl
    exact ⟨c :: before, rest, rfl, leads⟩
  | @lexeme first rest ls leads others ih =>
    rcases List.mem_cons.mp hl with rfl | hl
    · exact ⟨[], rest, rfl, leads⟩
    · obtain ⟨before, rest', rfl, leads'⟩ := ih hl
      exact ⟨first.chars ++ before, rest', (List.append_assoc ..).symm, leads'⟩

/-- A lexeme has a first character, and this character is no white space. -/
lemma Leads.exists_cons {l : Lexeme} {rest : List Char} (h : Leads l rest) :
    ∃ c cs, l.chars = c :: cs ∧ Text.isBlankChar c = false := by
  cases h with
  | @number c cs _ _ starts _ _ _ =>
    refine ⟨c, cs, rfl, ?_⟩
    rcases isDigit_of_startsNumber starts with hdigit | rfl
    · exact Text.isBlankChar_of_isWordChar (Text.isWordChar_of_isDigit hdigit)
    · decide
  | word start _ _ =>
    have hword := isWordChar_of_isNameChar (isNameChar_of_isNameStart start)
    exact ⟨_, _, rfl, Text.isBlankChar_of_isWordChar hword⟩
  | text _ _ _ => exact ⟨_, _, rfl, by decide⟩
  | mark found => exact ⟨_, _, rfl, (not_word_of_mem_markChars (mem_markChars found)).2.1⟩

/-- The tokens found after others are those of lexemes, before the mark of the end. -/
lemma Lexes.of_tokensAfter {acc found : List Placed} {offset : Nat} {cs : List Char}
    (h : tokensAfter acc offset cs = .ok found) :
    ∃ ls, Lexes cs ls ∧ found.map Placed.token =
      acc.reverse.map Placed.token ++ (ls.map Lexeme.token ++ [.endOfText]) := by
  fun_induction tokensAfter acc offset cs with
  | case1 acc offset =>
    cases h
    exact ⟨[], .nil, by simp⟩
  | case2 acc offset c rest hblank ih =>
    obtain ⟨ls, hls, hfound⟩ := ih h
    exact ⟨ls, .blank hblank hls, hfound⟩
  | case3 => cases h
  | case4 acc offset c rest hblank token more hfirst ih =>
    obtain ⟨ls, hls, hfound⟩ := ih h
    obtain ⟨part, rest, rfl, rfl, hleads⟩ := Leads.of_first hfirst
    rw [List.drop_left] at hls
    exact ⟨⟨token, c :: part⟩ :: ls, .lexeme hleads hls, by simp [hfound]⟩

/-- Characters that are lexemes split into the tokens of these, whatever was found in front of them
and at whatever offset they stand. -/
lemma Lexes.tokensAfter {cs : List Char} {ls : List Lexeme} (h : Lexes cs ls) (acc : List Placed)
    (offset : Nat) : ∃ found, tokensAfter acc offset cs = .ok found ∧ found.map Placed.token =
      acc.reverse.map Placed.token ++ (ls.map Lexeme.token ++ [.endOfText]) := by
  induction h generalizing acc offset with
  | nil => exact ⟨_, by rw [Formula.tokensAfter], by simp⟩
  | blank white others ih =>
    obtain ⟨found, hfound, hmap⟩ := ih acc (offset + 1)
    exact ⟨found, by rw [Formula.tokensAfter, if_pos white, hfound], hmap⟩
  | @lexeme l rest ls leads others ih =>
    obtain ⟨token, chars⟩ := l
    obtain ⟨c, cs, rfl, hblank⟩ := leads.exists_cons
    obtain ⟨found, hfound, hmap⟩ := ih (⟨token, offset⟩ :: acc) (offset + 1 + cs.length)
    refine ⟨found, ?_, by simpa using hmap⟩
    rw [List.cons_append, Formula.tokensAfter, leads.first, hblank]
    simpa using hfound

/-- A text is split into tokens just when it is a row of lexemes that write them. This ties the
reader to its description. -/
lemma tokens_eq_ok_iff {s : String} {ts : List Token} :
    (∃ found, tokens s = .ok found ∧ found.map Placed.token = ts ++ [.endOfText]) ↔
      ∃ ls, Lexes s.toList ls ∧ ls.map Lexeme.token = ts := by
  constructor
  · rintro ⟨found, hfound, hmap⟩
    obtain ⟨ls, hls, hmap'⟩ := Lexes.of_tokensAfter hfound
    exact ⟨ls, hls, by simpa [hmap] using hmap'.symm⟩
  · rintro ⟨ls, hls, rfl⟩
    exact hls.tokensAfter [] 0

/-! ## Reading on -/

/-- The empty text is a row of no lexemes and of nothing else. -/
lemma Lexes.nil_iff {ls : List Lexeme} : Lexes [] ls ↔ ls = [] := by
  constructor
  · intro h
    generalize hcs : ([] : List Char) = cs at h
    cases h with
    | nil => rfl
    | blank => cases hcs
    | lexeme leads others =>
      obtain ⟨c, cs, hchars, -⟩ := leads.exists_cons
      rw [hchars] at hcs
      cases hcs
  · rintro rfl
    exact .nil

/-- The first character is white space, or a lexeme starts with it. -/
lemma Lexes.cons_inv {c : Char} {cs : List Char} {ls : List Lexeme} (h : Lexes (c :: cs) ls) :
    Text.isBlankChar c = true ∧ Lexes cs ls ∨ Text.isBlankChar c = false ∧ ∃ t part rest ls',
      cs = part ++ rest ∧ ls = ⟨t, c :: part⟩ :: ls' ∧ Leads ⟨t, c :: part⟩ rest ∧
        Lexes rest ls' := by
  generalize hcs : c :: cs = cs' at h
  cases h with
  | nil => cases hcs
  | blank white others =>
    obtain ⟨rfl, rfl⟩ := List.cons.inj hcs
    exact .inl ⟨white, others⟩
  | @lexeme l rest ls leads others =>
    right
    obtain ⟨t, chars⟩ := l
    obtain ⟨d, part, rfl, hd⟩ := leads.exists_cons
    obtain ⟨rfl, rfl⟩ := List.cons.inj hcs
    exact ⟨hd, t, part, rest, ls, rfl, rfl, leads, others⟩

/-- White space in front of lexemes is passed over: the row is the same without it. -/
lemma Lexes.blank_iff {c : Char} {cs : List Char} {ls : List Lexeme}
    (hc : Text.isBlankChar c = true) : Lexes (c :: cs) ls ↔ Lexes cs ls := by
  constructor
  · intro h
    rcases h.cons_inv with ⟨-, others⟩ | ⟨hblank, -⟩
    · exact others
    · rw [hc] at hblank
      cases hblank
  · exact .blank hc

/-- White space in front of lexemes is passed over. -/
lemma Lexes.blanks_iff {before cs : List Char} {ls : List Lexeme}
    (h : before.all Text.isBlankChar = true) : Lexes (before ++ cs) ls ↔ Lexes cs ls := by
  induction before with
  | nil => exact Iff.rfl
  | cons c before ih =>
    rw [List.all_cons, Bool.and_eq_true] at h
    rw [List.cons_append, Lexes.blank_iff h.1, ih h.2]

/-- There is no lexeme in white space, and in nothing else. -/
lemma Lexes.none_iff {cs : List Char} : Lexes cs [] ↔ cs.all Text.isBlankChar = true := by
  constructor
  · intro h
    generalize hls : ([] : List Lexeme) = ls at h
    induction h with
    | nil => rfl
    | blank white others ih =>
      rw [List.all_cons, white, ih hls]
      rfl
    | lexeme => cases hls
  · intro h
    rw [← List.append_nil cs]
    exact (Lexes.blanks_iff h).mpr .nil

/-- A text with a sole lexeme is this lexeme with white space on both sides. -/
lemma Lexes.exists_append_of_singleton {cs : List Char} {l : Lexeme} (h : Lexes cs [l]) :
    ∃ before after, cs = before ++ l.chars ++ after ∧ before.all Text.isBlankChar = true ∧
      after.all Text.isBlankChar = true := by
  generalize hls : [l] = ls at h
  induction h with
  | nil => cases hls
  | @blank c cs ls white others ih =>
    obtain ⟨before, after, rfl, hbefore, hafter⟩ := ih hls
    refine ⟨c :: before, after, rfl, ?_, hafter⟩
    rw [List.all_cons, white, hbefore]
    rfl
  | @lexeme l rest ls leads others ih =>
    cases hls
    exact ⟨[], rest, rfl, rfl, Lexes.none_iff.mp others⟩

/-- Characters start with at most one lexeme, which fixes how long it is and what follows. -/
lemma Leads.unique {l l' : Lexeme} {rest rest' : List Char} (h : Leads l rest)
    (h' : Leads l' rest') (heq : l.chars ++ rest = l'.chars ++ rest') : l = l' ∧ rest = rest' := by
  obtain ⟨t, chars⟩ := l
  obtain ⟨t', chars'⟩ := l'
  obtain ⟨c, cs, rfl, -⟩ := h.exists_cons
  obtain ⟨c', cs', rfl, -⟩ := h'.exists_cons
  simp only [List.cons_append, List.cons.injEq] at heq
  obtain ⟨rfl, heq⟩ := heq
  have hfirst := h.first
  rw [heq, h'.first] at hfirst
  simp only [Except.ok.injEq, Prod.mk.injEq] at hfirst
  obtain ⟨rfl, hlength⟩ := hfirst
  obtain ⟨rfl, rfl⟩ := List.append_inj heq hlength.symm
  exact ⟨rfl, rfl⟩

/-- A lexeme in front of other characters is the first one of any splitting. -/
lemma Leads.lexes_iff {l : Lexeme} {rest : List Char} {ls : List Lexeme} (h : Leads l rest) :
    Lexes (l.chars ++ rest) ls ↔ ∃ ls', ls = l :: ls' ∧ Lexes rest ls' := by
  constructor
  · intro hls
    obtain ⟨c, cs, hchars, hc⟩ := h.exists_cons
    rw [hchars, List.cons_append] at hls
    rcases hls.cons_inv with ⟨white, -⟩ | ⟨-, t, part, rest', ls', hcs, rfl, leads, others⟩
    · rw [hc] at white
      cases white
    · have heq : l.chars ++ rest = c :: part ++ rest' := by
        rw [hchars, List.cons_append, hcs, List.cons_append]
      obtain ⟨rfl, rfl⟩ := h.unique leads heq
      exact ⟨ls', rfl, others⟩
  · rintro ⟨ls', rfl, hls'⟩
    exact .lexeme h hls'

/-- In front of lexemes no name is cut off: a character that ends a name there also ends a word. -/
lemma Lexes.not_isWordChar {cs : List Char} {ls : List Lexeme} (h : Lexes cs ls) {c : Char}
    (hc : c ∈ cs.head?) (hname : isNameChar c = false) : Text.isWordChar c = false := by
  cases h with
  | nil => cases hc
  | blank white others =>
    cases hc
    exact Text.isWordChar_of_isBlankChar white
  | lexeme leads others =>
    cases leads with
    | number starts _ _ _ =>
      cases hc
      rcases isDigit_of_startsNumber starts with hdigit | rfl
      · rw [isNameChar_of_isDigit hdigit] at hname
        cases hname
      · decide
    | word start _ _ =>
      cases hc
      rw [isNameChar_of_isNameStart start] at hname
      cases hname
    | text _ _ _ =>
      cases hc
      decide
    | mark found =>
      cases hc
      exact (not_word_of_mem_markChars (mem_markChars found)).1

/-! ## The lexemes of a text -/

/-- The lexemes of characters, as far as they split into tokens. -/
def lexemes (cs : List Char) : List Lexeme :=
  match cs with
  | [] => []
  | c :: rest =>
    if Text.isBlankChar c then lexemes rest
    else match Token.first c rest with
      | .error _ => []
      | .ok (token, more) => ⟨token, c :: rest.take more⟩ :: lexemes (rest.drop more)
termination_by cs.length
decreasing_by
  all_goals
    simp only [List.length_cons, List.length_drop]
    omega

/-- A lexeme in front of other characters is the first one that is found. -/
lemma Leads.lexemes_append {l : Lexeme} {rest : List Char} (h : Leads l rest) :
    lexemes (l.chars ++ rest) = l :: lexemes rest := by
  obtain ⟨token, chars⟩ := l
  obtain ⟨c, cs, rfl, hblank⟩ := h.exists_cons
  rw [List.cons_append, lexemes, h.first, hblank]
  simp

/-- What characters split into is what is found of them from the left: no lexeme is missed and none
added. -/
lemma Lexes.lexemes_eq {cs : List Char} {ls : List Lexeme} (h : Lexes cs ls) :
    lexemes cs = ls := by
  induction h with
  | nil => rw [lexemes]
  | blank white others ih => rw [lexemes, if_pos white, ih]
  | lexeme leads others ih => rw [leads.lexemes_append, ih]

/-- The tokens that are found after others are those of the lexemes of the characters that were
left, before the mark of the end. So the lexemes keep in step with the splitting, which goes through
the characters in the same way. -/
lemma map_token_of_tokensAfter {acc found : List Placed} {offset : Nat} {cs : List Char}
    (h : tokensAfter acc offset cs = .ok found) : found.map Placed.token =
      acc.reverse.map Placed.token ++ ((lexemes cs).map Lexeme.token ++ [.endOfText]) := by
  obtain ⟨ls, hls, hfound⟩ := Lexes.of_tokensAfter h
  rw [hfound, hls.lexemes_eq]

/-- The tokens of a text are those of its lexemes, before the mark of the end. -/
lemma map_token_of_tokens {s : String} {found : List Placed} (h : tokens s = .ok found) :
    found.map Placed.token = (lexemes s.toList).map Lexeme.token ++ [.endOfText] :=
  map_token_of_tokensAfter h

end Formula

end Spreadsheet
