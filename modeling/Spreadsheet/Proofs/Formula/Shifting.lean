import Spreadsheet.Formula.Evaluation
import Spreadsheet.Proofs.Formula.Acceptance
import Spreadsheet.Proofs.Formula.ShiftScan

/-!
# Shifting the text of a formula shifts its tree

Two things take a formula text apart: the splitting into tokens, and the scan that shifts
references.  The main result is that they agree up to one point: the text of a shifted formula
reads as the shifted tree exactly when each of its numbers, shifted like any other text, still
names the same number (`Expr.ofText_shifted_iff`).  A number such as `1.E5`, whose exponent the scan
takes for a reference, need not do so (`Expr.not_ofText_shifted`).  It is the only kind that fails:
a formula in whose numbers no address stands directly behind a point shifts as its tree does
(`Expr.ofText_shifted`), and so does every formula that holds no point in front of a capital `E`
(`Expr.ofText_shifted_of_not_point_capital`).

The proof follows the lexemes of the text.  In an expression nothing runs into an operand from
behind (`Lexes.closed`), so that each lexeme moves on its own (`Leads.move`), and it is a lexeme
again unless it is a number that lost its name; what such a number becomes never stands in an
expression.  So the moved text splits into moved lexemes or not at all (`Lexes.move_iff`).
-/

namespace Spreadsheet

namespace Formula

open Token

/-! ## Behind an operand -/

/-- What stands directly behind an operand: nothing that could run into it. -/
def Closed (rest : List Char) : Prop :=
  ∀ c ∈ rest.head?, Text.isWordChar c = false ∧ c ≠ '(' ∧ c ≠ '"' ∧ c ≠ '.'

/-- The token of a word is a reference or a name, and neither may stand directly behind an operand.
-/
lemma not_continues_ofWord (w : List Char) : ¬(ofWord w).Continues := by
  unfold ofWord
  split <;> exact id

/-- White space in front of a text closes it off from the operand before it. -/
lemma closed_of_isBlankChar {rest : List Char}
    (h : ∀ c ∈ rest.head?, Text.isBlankChar c = true) : Closed rest := by
  intro c hc
  have hblank := h c hc
  refine ⟨Text.isWordChar_of_isBlankChar hblank, ?_, ?_, ?_⟩ <;>
    (rintro rfl; exact absurd hblank (by decide))

/-- Whatever an operand may be followed by keeps apart from it. -/
lemma Lexes.closed {rest : List Char} {ls : List Lexeme} (h : Lexes rest ls) {t : Token}
    (hadj : Adjacent (t :: ls.map Lexeme.token)) (ht : t.IsOperand) : Closed rest := by
  cases h with
  | nil => exact fun c hc => nomatch hc
  | @blank d _ _ white others =>
    refine closed_of_isBlankChar ?_
    rintro c ⟨⟩
    exact white
  | @lexeme l _ _ leads others =>
    intro c hc
    have hcontinues : l.token.Continues := (List.isChain_cons.mp hadj).1 l.token rfl ht
    cases leads with
    | number => exact absurd hcontinues id
    | word => exact absurd hcontinues (not_continues_ofWord _)
    | text => exact absurd hcontinues id
    | mark found =>
      cases hc
      obtain ⟨hword, -, hquote, hpoint, -⟩ := not_word_of_mem_markChars (mem_markChars found)
      refine ⟨hword, ?_, hquote, hpoint⟩
      rintro rfl
      simp only [mark?, Option.some.injEq, Prod.mk.injEq] at found
      rw [← found.1] at hcontinues
      exact hcontinues

/-- A numeral is taken whole in front of what keeps apart from an operand. -/
lemma Closed.numberPart_append {w rest : List Char} (hrest : Closed rest) (h : IsNumeral w) :
    numberPart (w ++ rest) = w :=
  Formula.numberPart_append h (fun c hc => (hrest c hc).1) fun c hc => (hrest c hc).2.2.2

variable {shift : Shift}

/-- A shift does not change the character that keeps apart from an operand. -/
lemma Closed.head?_move {rest : List Char} (h : Closed rest) :
    (shift.move [] rest).head? = rest.head? :=
  Shift.head?_move_of_not_word fun c hc => (h c hc).1

/-- What keeps apart from an operand still does so after a shift. -/
lemma Closed.move {rest : List Char} (h : Closed rest) : Closed (shift.move [] rest) := by
  intro c hc
  rw [h.head?_move] at hc
  exact h c hc

/-! ## Moved numbers -/

/-- Characters that start like a number are only split with a number in front. -/
lemma Lexes.number_inv {c : Char} {cs : List Char} {ls : List Lexeme} (h : Lexes (c :: cs) ls)
    (starts : startsNumber c cs = true) :
    ∃ n rest ls', ls = ⟨.number n, numberPart (c :: cs)⟩ :: ls' ∧
      numeral? (numberPart (c :: cs)) = some n ∧ n.isFinite = true ∧
      c :: cs = numberPart (c :: cs) ++ rest ∧ Lexes rest ls' := by
  rcases h.cons_inv with ⟨white, -⟩ | ⟨-, t, part, rest, ls', rfl, rfl, leads, others⟩
  · rcases isDigit_of_startsNumber starts with hdigit | rfl
    · rw [Text.isBlankChar_of_isWordChar (Text.isWordChar_of_isDigit hdigit)] at white
      cases white
    · exact absurd white (by decide)
  · cases leads with
    | @number _ _ _ n _ hpart value finite =>
      rw [List.cons_append] at hpart
      rw [hpart]
      exact ⟨n, rest, ls', rfl, value, finite, rfl, others⟩
    | word start =>
      rw [startsNumber_of_isNameStart start] at starts
      cases starts
    | text => simp [startsNumber] at starts
    | mark found =>
      obtain ⟨hword, -, -, hpoint, -⟩ := not_word_of_mem_markChars (mem_markChars found)
      simp [startsNumber, not_isDigit_of_not_isWordChar hword, hpoint] at starts

/-- What stands behind an operand does not make a number of a point. -/
lemma startsNumber_congr {c : Char} {cs rest : List Char} (hrest : Closed rest)
    (rest' : List Char) (h : startsNumber c (cs ++ rest) = true) :
    startsNumber c (cs ++ rest') = true := by
  cases cs with
  | nil =>
    have hany : rest.head?.any Char.isDigit = false := by
      cases rest with
      | nil => rfl
      | cons d rest => exact not_isDigit_of_not_isWordChar (hrest d rfl).1
    rw [List.nil_append, startsNumber, hany, Bool.and_false, Bool.or_false] at h
    rw [startsNumber, h, Bool.true_or]
  | cons d cs => exact h

/-- The characters write a finite number. -/
def Names (w : List Char) (n : Number) : Prop :=
  numeral? w = some n ∧ n.isFinite = true

/-- The characters that a number takes are a numeral, and none of its marks is an upper-case letter
at the start. -/
lemma isNumeral_of_startsNumber {c : Char} {cs rest : List Char}
    (starts : startsNumber c (cs ++ rest) = true) (part : numberPart (c :: cs ++ rest) = c :: cs) :
    IsNumeral (c :: cs) ∧ ∀ d ∈ (c :: cs).head?, d.isUpper = false := by
  constructor
  · rw [← part]
    exact (numberPart_spec _).1
  · rintro _ ⟨⟩
    rcases isDigit_of_startsNumber starts with hdigit | rfl
    · exact Text.isUpper_of_isDigit hdigit
    · decide

/-- A numeral of a finite number is a lexeme in front of what keeps apart from it. -/
lemma leads_of_isNumeral {c : Char} {cs rest : List Char} {n : Number} (h : IsNumeral (c :: cs))
    (starts : startsNumber c (cs ++ rest) = true) (hrest : Closed rest) (hn : Names (c :: cs) n) :
    Leads ⟨.number n, c :: cs⟩ rest :=
  .number starts (hrest.numberPart_append h) hn.1 hn.2

/-- A numeral in front of what keeps apart from it is a lexeme if it names a finite number, and no
text can be split there otherwise. -/
lemma leads_or_not_lexes {c : Char} {cs rest : List Char} (h : IsNumeral (c :: cs))
    (starts : startsNumber c (cs ++ rest) = true) (hrest : Closed rest) :
    (∃ n, Names (c :: cs) n ∧ Leads ⟨.number n, c :: cs⟩ rest) ∨
      (¬∃ n, Names (c :: cs) n) ∧ ∀ ls, ¬Lexes (c :: cs ++ rest) ls := by
  by_cases hvalue : ∃ n, Names (c :: cs) n
  · obtain ⟨n, hn⟩ := hvalue
    exact .inl ⟨n, hn, leads_of_isNumeral h starts hrest hn⟩
  · refine .inr ⟨hvalue, fun ls hls => ?_⟩
    have hpart : numberPart (c :: (cs ++ rest)) = c :: cs := hrest.numberPart_append h
    rw [List.cons_append] at hls
    obtain ⟨n, _, _, _, hn, hfinite, -⟩ := hls.number_inv starts
    rw [hpart] at hn
    exact hvalue ⟨n, hn, hfinite⟩

/-- The text of an address is an exponent, or it starts with a capital letter and with none. -/
lemma chars_behind_point (a : Address) :
    (∃ digits, a.chars = 'E' :: digits ∧ IsExponent ('E' :: digits)) ∨
      ∃ c more, a.chars = c :: more ∧ c.isUpper = true ∧
        ∀ rest, exponentPart (a.chars ++ rest) = [] := by
  obtain ⟨c, letters, hletters, hc, hupper⟩ := Column.exists_letters_eq_cons a.column
  rw [Address.chars, hletters]
  by_cases hE : letters = [] ∧ c = 'E'
  · obtain ⟨rfl, rfl⟩ := hE
    left
    refine ⟨_, rfl, ?_⟩
    exact @IsExponent.some 'E' [] _ (.inr rfl) (.inl rfl) Nat.toDigits_ne_nil
      (all_isDigit_toDigits a.row.val)
  · right
    refine ⟨c, _, rfl, hc, fun rest => ?_⟩
    cases letters with
    | nil =>
      apply exponentPart_of_head
      rintro _ ⟨⟩
      refine ⟨?_, fun h => hE ⟨rfl, h⟩⟩
      rintro rfl
      exact absurd hc (by decide)
    | cons d letters =>
      have hd : d.isUpper = true := by
        rw [List.all_cons, Bool.and_eq_true] at hupper
        exact hupper.1
      apply exponentPart_of_second (Text.isDigit_of_isUpper hd)
      · rintro rfl
        exact absurd hd (by decide)
      · rintro rfl
        exact absurd hd (by decide)

/-- A reference behind a point is an exponent again, or it is cut off from the number. -/
lemma Shift.word_behind_point {cs : List Char} {a : Address} (h : Address.read? cs = some a) :
    (∃ digits, shift.word cs = 'E' :: digits ∧ IsExponent ('E' :: digits)) ∨
      ∃ c more, shift.word cs = c :: more ∧ (c = '#' ∨ c.isUpper = true) ∧
        ∀ rest, exponentPart (shift.word cs ++ rest) = [] := by
  cases ha : shift.address? a with
  | none =>
    have hlost : shift.word cs = lostReference.toList := by
      rw [Shift.address?] at ha
      rw [Shift.word, h]
      simp only [ha]
    rw [hlost]
    refine .inr ⟨'#', "REF!".toList, rfl, .inl rfl, fun rest => ?_⟩
    apply exponentPart_of_head
    rintro _ ⟨⟩
    decide
  | some a' =>
    rw [Shift.word_of_address h ha]
    rcases chars_behind_point a' with hexponent | ⟨c, more, hchars, hc, hcut⟩
    · exact .inl hexponent
    · exact .inr ⟨c, more, hchars, .inr hc, hcut⟩

/-- Characters that are read as an exponent behind their mark are one, with the mark. -/
lemma isExponent_of_readExponent? {mark : Char} {cs : List Char} {k : Int}
    (mem : mark = 'e' ∨ mark = 'E') (h : Decimal.readExponent? cs = some k) :
    IsExponent (mark :: cs) := by
  unfold Decimal.readExponent? at h
  split at h
  case h_1 digits =>
    obtain ⟨n, hn, -⟩ := Option.map_eq_some_iff.mp h
    obtain ⟨hdigits, -⟩ := Option.ite_none_right_eq_some.mp hn
    exact @IsExponent.some mark ['+'] digits mem (.inr (.inl rfl)) hdigits.1 hdigits.2
  case h_2 digits =>
    obtain ⟨n, hn, -⟩ := Option.map_eq_some_iff.mp h
    obtain ⟨hdigits, -⟩ := Option.ite_none_right_eq_some.mp hn
    exact @IsExponent.some mark ['-'] digits mem (.inr (.inr rfl)) hdigits.1 hdigits.2
  case h_3 =>
    obtain ⟨n, hn, -⟩ := Option.map_eq_some_iff.mp h
    obtain ⟨hdigits, -⟩ := Option.ite_none_right_eq_some.mp hn
    exact @IsExponent.some mark [] cs mem (.inl rfl) hdigits.1 hdigits.2

section BehindPoint

variable {digits cs : List Char} {c : Char}

/-- What is no exponent behind a point is not part of a number. -/
lemma numeral?_behind_point (hdigits : digits.all Char.isDigit = true) (hc : c.isDigit = false)
    (hexponent : exponentPart (c :: cs) = []) : numeral? (digits ++ '.' :: c :: cs) = none := by
  have hpoint : ∀ d ∈ ('.' :: c :: cs).head?, d.isDigit = false := by
    rintro _ ⟨⟩
    decide
  have htake : (c :: cs).takeWhile Char.isDigit = [] := List.takeWhile_cons_of_neg (by simp [hc])
  have hdrop : (c :: cs).dropWhile Char.isDigit = c :: cs :=
    List.dropWhile_cons_of_neg (by simp [hc])
  have hread : (c = 'e' ∨ c = 'E') → Decimal.readExponent? cs = none := by
    intro mem
    rw [← Option.not_isSome_iff_eq_none, Option.isSome_iff_exists]
    rintro ⟨k, hk⟩
    have happend : exponentPart (c :: cs ++ []) = c :: cs :=
      exponentPart_append (isExponent_of_readExponent? mem hk) (by simp)
    rw [List.append_nil, hexponent] at happend
    cases happend
  rw [numeral?, Decimal.read?, Text.takeWhile_run hdigits hpoint, Text.dropWhile_run hdigits hpoint]
  simp only [htake, hdrop]
  split
  · rfl
  · split
    case isTrue mem => rw [hread mem]; rfl
    case isFalse => rfl

/-- A number ends at its point where neither a digit nor an exponent follows. -/
lemma numberPart_behind_point (hdigits : digits.all Char.isDigit = true) (hc : c.isDigit = false)
    (hexponent : exponentPart (c :: cs) = []) :
    numberPart (digits ++ '.' :: c :: cs) = digits ++ ['.'] := by
  have hpoint : ∀ d ∈ ('.' :: c :: cs).head?, d.isDigit = false := by
    rintro _ ⟨⟩
    decide
  have htake : (c :: cs).takeWhile Char.isDigit = [] := List.takeWhile_cons_of_neg (by simp [hc])
  have hdrop : (c :: cs).dropWhile Char.isDigit = c :: cs :=
    List.dropWhile_cons_of_neg (by simp [hc])
  rw [numberPart, Text.takeWhile_run hdigits hpoint, Text.dropWhile_run hdigits hpoint]
  simp only [htake, hdrop, hexponent, List.append_nil]

/-- Nothing that starts with a capital letter or a lost reference goes on behind an operand. -/
lemma Lexes.not_continues {ls : List Lexeme} (h : Lexes (c :: cs) ls)
    (hc : c = '#' ∨ c.isUpper = true) : ∃ l ls', ls = l :: ls' ∧ ¬l.token.Continues := by
  have hblank : Text.isBlankChar c = false := by
    rcases hc with rfl | hc
    · decide
    · exact Text.isBlankChar_of_isWordChar (Text.isWordChar_of_isUpper hc)
  have hmark : c ∉ markChars := by
    intro hmem
    obtain ⟨hword, -, -, -, hsharp⟩ := not_word_of_mem_markChars hmem
    rcases hc with hc | hc
    · exact hsharp hc
    · rw [Text.isWordChar_of_isUpper hc] at hword
      cases hword
  rcases h.cons_inv with ⟨white, -⟩ | ⟨-, t, part, rest, ls', rfl, rfl, leads, -⟩
  · rw [hblank] at white
    cases white
  · refine ⟨_, ls', rfl, ?_⟩
    cases leads with
    | number => exact id
    | word => exact not_continues_ofWord _
    | text => exact id
    | mark found => exact absurd (mem_markChars found) hmark

/-- A number that ends at its point is no neighbour of a word. -/
lemma Lexes.not_adjacent {ls : List Lexeme} (h : Lexes (digits ++ '.' :: c :: cs) ls)
    (hne : digits ≠ []) (hdigits : digits.all Char.isDigit = true) (hc : c = '#' ∨ c.isUpper = true)
    (hexponent : exponentPart (c :: cs) = []) : ¬Adjacent (ls.map Lexeme.token) := by
  have hc' : c.isDigit = false := by
    rcases hc with rfl | hc
    · decide
    · exact Text.isDigit_of_isUpper hc
  have hpart := numberPart_behind_point hdigits hc' hexponent
  obtain ⟨d, ds, rfl⟩ := List.exists_cons_of_ne_nil hne
  rw [List.all_cons, Bool.and_eq_true] at hdigits
  rw [List.cons_append] at h hpart
  obtain ⟨n, rest, ls', rfl, -, -, heq, hls⟩ := h.number_inv (by simp [startsNumber, hdigits.1])
  rw [hpart] at heq
  obtain rfl : c :: cs = rest := by simpa using heq
  obtain ⟨l, ls', rfl, hl⟩ := hls.not_continues hc
  intro hadj
  exact hl ((List.isChain_cons_cons.mp hadj).1 trivial)

/-- Digits and a point with a word behind them neither name a number nor stand in an expression. -/
lemma not_names_and_not_adjacent (hne : digits ≠ []) (hdigits : digits.all Char.isDigit = true)
    (hc : c = '#' ∨ c.isUpper = true) (hexponent : ∀ rest, exponentPart (c :: cs ++ rest) = []) :
    (¬∃ n, Names (digits ++ '.' :: c :: cs) n) ∧ ∀ rest ls,
      Lexes (digits ++ '.' :: c :: cs ++ rest) ls → ¬Adjacent (ls.map Lexeme.token) := by
  have hc' : c.isDigit = false := by
    rcases hc with rfl | hc
    · decide
    · exact Text.isDigit_of_isUpper hc
  constructor
  · rintro ⟨n, hn, -⟩
    have hcut := hexponent []
    rw [List.append_nil] at hcut
    rw [numeral?_behind_point hdigits hc' hcut] at hn
    cases hn
  · intro rest ls hls
    refine Lexes.not_adjacent ?_ hne hdigits hc (hexponent rest)
    simpa using hls

end BehindPoint

/-- The characters of a numeral that are no digits. -/
def numeralMarks : List Char :=
  ['.', 'e', 'E', '+', '-']

/-- An exponent consists of digits and marks of numerals. -/
lemma IsExponent.isDigit_or_mem {cs : List Char} (h : IsExponent cs) :
    ∀ c ∈ cs, c.isDigit = true ∨ c ∈ numeralMarks := by
  intro c hc
  cases h with
  | none => cases hc
  | @some mark sign digits mem optional ne all =>
    have hmarks : mark :: sign ⊆ numeralMarks := by
      rcases mem with rfl | rfl <;> rcases optional with rfl | rfl | rfl <;> decide
    rcases List.mem_append.mp hc with hc | hc
    · exact .inr (hmarks hc)
    · exact .inl (List.all_eq_true.mp all c hc)

/-- A numeral consists of digits and of its marks. -/
lemma IsNumeral.isDigit_or_mem {w : List Char} (h : IsNumeral w) :
    ∀ c ∈ w, c.isDigit = true ∨ c ∈ numeralMarks := by
  intro c hc
  cases h with
  | whole all exponential =>
    rcases List.mem_append.mp hc with hc | hc
    · exact .inl (List.all_eq_true.mp all c hc)
    · exact exponential.isDigit_or_mem c hc
  | fraction all all' exponential =>
    rcases List.mem_append.mp hc with hc | hc
    · exact .inl (List.all_eq_true.mp all c hc)
    · rcases List.mem_cons.mp hc with rfl | hc
      · exact .inr List.mem_cons_self
      · rcases List.mem_append.mp hc with hc | hc
        · exact .inl (List.all_eq_true.mp all' c hc)
        · exact exponential.isDigit_or_mem c hc

/-- No character of a number is white space, so a number stands in one piece. -/
lemma not_isBlankChar_of_isDigit_or_mem {c : Char} (h : c.isDigit = true ∨ c ∈ numeralMarks) :
    Text.isBlankChar c = false := by
  rcases h with hdigit | hmark
  · exact Text.isBlankChar_of_isWordChar (Text.isWordChar_of_isDigit hdigit)
  · have hmarks : (numeralMarks.all fun c => !Text.isBlankChar c) = true := by decide
    exact (Bool.not_eq_true' _).mp (List.all_eq_true.mp hmarks c hmark)

/-- There is no quote in a numeral, so that no literal opens there. -/
lemma IsNumeral.not_mem_quote {w : List Char} (h : IsNumeral w) : '"' ∉ w := by
  intro hmem
  exact absurd (h.isDigit_or_mem _ hmem) (by decide)

/-- A moved number is a lexeme again, unless it no longer names a number; then its text cannot be
split as part of an expression. -/
lemma leads_move_number {c : Char} {cs rest : List Char} {n : Number}
    (starts : startsNumber c (cs ++ rest) = true) (part : numberPart (c :: cs ++ rest) = c :: cs)
    (value : Names (c :: cs) n) (hrest : Closed rest) :
    (∃ n', Names (shift.move [] (c :: cs)) n' ∧
      shift.move [] (c :: cs ++ rest) = shift.move [] (c :: cs) ++ shift.move [] rest ∧
      Leads ⟨.number n', shift.move [] (c :: cs)⟩ (shift.move [] rest)) ∨
    (¬∃ n', Names (shift.move [] (c :: cs)) n') ∧
      ∀ ls, Lexes (shift.move [] (c :: cs ++ rest)) ls → ¬Adjacent (ls.map Lexeme.token) := by
  have hrest' : Closed (shift.move [] rest) := hrest.move
  obtain ⟨hnumeral, hupper⟩ := isNumeral_of_startsNumber starts part
  have happend : shift.move [] (c :: cs ++ rest) = shift.move [] (c :: cs) ++ shift.move [] rest :=
    Shift.move_append hnumeral.not_mem_quote (fun d hd => (hrest d hd).1)
      (fun hparen => (hrest _ hparen).2.1 rfl) []
  rcases @Shift.move_numeral shift _ hnumeral hupper with
    hsame | ⟨digits, exponent, a, hw, hdigits, -, hread, hmove⟩
  · left
    rw [hsame] at happend ⊢
    have hstarts := startsNumber_congr hrest (shift.move [] rest) starts
    exact ⟨n, value, happend, leads_of_isNumeral hnumeral hstarts hrest' value⟩
  · have hne : digits ≠ [] := by
      rintro rfl
      obtain ⟨rfl, rfl⟩ := List.cons.inj hw
      obtain ⟨letters, ds, rfl, hne, hletters, -⟩ := Address.shape_of_read? hread
      obtain ⟨d, letters, rfl⟩ := List.exists_cons_of_ne_nil hne
      rw [List.all_cons, Bool.and_eq_true] at hletters
      simp [startsNumber, Text.isDigit_of_isUpper hletters.1] at starts
    rw [hmove] at happend ⊢
    rw [happend]
    rcases @Shift.word_behind_point shift _ _ hread with
      ⟨exponent', hword, hexponent⟩ | ⟨e, more, hword, he, hexponent⟩
    · -- The exponent has become another exponent.
      rw [hword]
      obtain ⟨d, ds, rfl⟩ := List.exists_cons_of_ne_nil hne
      have hd : d.isDigit = true := by
        rw [List.all_cons, Bool.and_eq_true] at hdigits
        exact hdigits.1
      have hnumeral' : IsNumeral (d :: (ds ++ '.' :: 'E' :: exponent')) :=
        @IsNumeral.fraction (d :: ds) [] _ hdigits rfl hexponent
      rcases leads_or_not_lexes hnumeral' (by simp [startsNumber, hd]) hrest' with
        ⟨n', hn', hleads⟩ | ⟨hnot, hlexes⟩
      · exact .inl ⟨n', hn', rfl, hleads⟩
      · exact .inr ⟨hnot, fun ls hls => absurd hls (hlexes ls)⟩
    · -- The exponent is cut off from the number.
      rw [hword] at hexponent ⊢
      obtain ⟨hnot, hlexes⟩ := not_names_and_not_adjacent hne hdigits he hexponent
      exact .inr ⟨hnot, hlexes _⟩

/-! ## Moved words, texts and marks -/

/-- The text of an address is written like a name. -/
lemma exists_cons_chars (a : Address) :
    ∃ c cs, a.chars = c :: cs ∧ isNameStart c = true ∧ cs.all isNameChar = true := by
  obtain ⟨c, letters, hletters, hc, hupper⟩ := Column.exists_letters_eq_cons a.column
  refine ⟨c, letters ++ Nat.toDigits 10 a.row.val, by rw [Address.chars, hletters]; rfl, ?_, ?_⟩
  · simp [isNameStart, Text.isAlpha_eq, hc]
  · rw [List.all_append, Bool.and_eq_true, List.all_eq_true, List.all_eq_true]
    constructor
    · intro d hd
      simp [isNameChar, Text.isAlphanum_eq, List.all_eq_true.mp hupper d hd]
    · intro d hd
      exact isNameChar_of_isDigit (List.all_eq_true.mp (all_isDigit_toDigits a.row.val) d hd)

/-- A moved word is a lexeme again, a moved reference if it was one. -/
lemma leads_move_word {c : Char} {cs rest : List Char} {ls : List Lexeme} {t : Token}
    (start : isNameStart c = true) (all : cs.all isNameChar = true)
    (stop : ∀ d ∈ rest.head?, isNameChar d = false) (hls : Lexes rest ls)
    (hadj : Adjacent (ofWord (c :: cs) :: ls.map Lexeme.token))
    (ht : (ofWord (c :: cs)).offset? shift = some t) :
    ∃ w, shift.move [] (c :: cs ++ rest) = w ++ shift.move [] rest ∧
      Leads ⟨t, w⟩ (shift.move [] rest) := by
  have hrest : ∀ d ∈ rest.head?, Text.isWordChar d = false :=
    fun d hd => hls.not_isWordChar hd (stop d hd)
  have hstop : ∀ d ∈ (shift.move [] rest).head?, isNameChar d = false := by
    rwa [Shift.head?_move_of_not_word hrest]
  have hall := all_isWordChar_of_name start all
  rw [Shift.move_append_word hall, List.nil_append, Shift.move_of_not_word hrest]
  cases hread : Address.read? (c :: cs) with
  | none =>
    have hname : ofWord (c :: cs) = .name (String.ofList (c :: cs)) := by rw [ofWord, hread]
    rw [hname] at ht
    cases ht
    refine ⟨c :: cs, by rw [Shift.word_of_read? hread, ite_self], ?_⟩
    rw [← hname]
    exact .word start all hstop
  | some a =>
    have hcell : ofWord (c :: cs) = .cell a := by rw [ofWord, hread]
    rw [hcell] at ht hadj
    simp only [Token.offset?, Option.bind_eq_bind, Option.bind_eq_some_iff] at ht
    obtain ⟨a', ha, ht⟩ := ht
    cases ht
    have hparen : rest.head? ≠ some '(' := fun h => (hls.closed hadj trivial _ h).2.1 rfl
    refine ⟨a'.chars, by rw [if_neg hparen, Shift.word_of_address hread ha], ?_⟩
    have hcell' : ofWord a'.chars = .cell a' := by rw [ofWord, Address.read?_chars]
    obtain ⟨d, ds, hchars, hd, hds⟩ := exists_cons_chars a'
    rw [← hcell', hchars]
    exact .word hd hds hstop

/-- A literal is kept by the move and still is the lexeme that the moved text starts with. -/
lemma leads_move_text {cs rest content : List Char} (quoted : IsQuoted cs)
    (stop : ∀ d ∈ rest.head?, d ≠ '"')
    (part : textPart [] 0 (cs ++ rest) = some (content, cs.length)) :
    shift.move [] ('"' :: cs ++ rest) = '"' :: cs ++ shift.move [] rest ∧
      Leads ⟨.text (String.ofList content), '"' :: cs⟩ (shift.move [] rest) := by
  have hstop : ∀ d ∈ (shift.move [] rest).head?, d ≠ '"' := by
    rintro d hd rfl
    exact stop '"' ((Shift.mem_head?_move (by decide) (by decide) rest).mp hd) rfl
  constructor
  · rw [List.cons_append, Shift.move_quote, Shift.literal_append quoted,
      Shift.word_of_head (by simp)]
    rfl
  · refine .text quoted hstop ?_
    rw [← part]
    exact textPart_congr quoted hstop stop [] 0

/-- Of what follows it a mark sees only a sign that makes it a longer one. -/
lemma mark?_eq (c : Char) (cs : List Char) : mark? c cs =
    if '=' ∈ cs.head? then mark? c ['=']
    else if '>' ∈ cs.head? then mark? c ['>'] else mark? c [] := by
  cases cs with
  | nil => rfl
  | cons d cs =>
    have hmem : ∀ e, e ∈ (d :: cs).head? ↔ d = e := fun e => by simp
    simp only [hmem]
    split
    case isTrue heq =>
      subst heq
      unfold mark?
      split <;> simp_all
    case isFalse heq =>
      split
      case isTrue hgt =>
        subst hgt
        unfold mark?
        split <;> simp_all
      case isFalse hgt =>
        unfold mark?
        split <;> simp_all

/-- A mark has at most two characters, and the second one can only be that of a comparison. -/
lemma mark?_more {c : Char} {cs : List Char} {t : Token} {more : Nat}
    (h : mark? c cs = some (t, more)) :
    more = 0 ∨ more = 1 ∧ ∃ d tail, cs = d :: tail ∧ (d = '=' ∨ d = '>') := by
  unfold mark? at h
  split at h <;> cases h <;> simp

/-- A mark holds neither a number nor a reference, and so it stays what it is in every shift. -/
lemma mark?_token {c : Char} {cs : List Char} {t : Token} {more : Nat}
    (h : mark? c cs = some (t, more)) : t.offset? shift = some t ∧ ∀ n, t ≠ .number n := by
  unfold mark? at h
  split at h <;> cases h <;> simp [Token.offset?]

/-- A mark is kept by the move and still is the lexeme that the moved text starts with. -/
lemma leads_move_mark {c : Char} {cs rest : List Char} {t : Token}
    (found : mark? c (cs ++ rest) = some (t, cs.length)) :
    shift.move [] (c :: cs ++ rest) = c :: cs ++ shift.move [] rest ∧
      Leads ⟨t, c :: cs⟩ (shift.move [] rest) := by
  obtain ⟨hword, -, hquote, -⟩ := not_word_of_mem_markChars (mem_markChars found)
  rcases mark?_more found with hnil | ⟨hone, d, tail, htail, hd⟩
  · obtain rfl : cs = [] := List.eq_nil_of_length_eq_zero hnil
    refine ⟨Shift.move_nil_other hword hquote rest, .mark ?_⟩
    have heq : '=' ∈ (shift.move [] rest).head? ↔ '=' ∈ rest.head? :=
      Shift.mem_head?_move (by decide) (by decide) rest
    have hgt : '>' ∈ (shift.move [] rest).head? ↔ '>' ∈ rest.head? :=
      Shift.mem_head?_move (by decide) (by decide) rest
    rw [← found, mark?_eq, mark?_eq c ([] ++ rest)]
    simp only [List.nil_append, heq, hgt]
  · obtain ⟨e, rfl⟩ := List.length_eq_one_iff.mp hone
    obtain ⟨rfl, -⟩ := List.cons.inj htail
    have hd' : Text.isWordChar e = false ∧ e ≠ '"' := by rcases hd with rfl | rfl <;> decide
    refine ⟨?_, .mark ?_⟩
    · rw [List.cons_append, Shift.move_nil_other hword hquote, List.singleton_append,
        Shift.move_nil_other hd'.1 hd'.2]
      rfl
    · rw [← found, mark?_eq, mark?_eq c ([e] ++ rest)]
      rfl

/-! ## Moved lexemes -/

/-- The token that the moved characters of a lexeme write: a number is read anew, and references
move. -/
def Lexeme.MovesTo (shift : Shift) (l : Lexeme) (t : Token) : Prop :=
  match l.token with
  | .number _ => ∃ n, t = .number n ∧ Names (shift.move [] l.chars) n
  | u => u.offset? shift = some t

/-- A lexeme moves to one token at most. -/
lemma Lexeme.MovesTo.unique {l : Lexeme} {t t' : Token} (h : l.MovesTo shift t)
    (h' : l.MovesTo shift t') : t = t' := by
  unfold MovesTo at h h'
  split at h
  case h_1 value hl =>
    rw [hl] at h'
    obtain ⟨n, rfl, hn, -⟩ := h
    obtain ⟨n', rfl, hn', -⟩ := h'
    rw [Option.some.inj (hn.symm.trans hn')]
  case h_2 hl =>
    split at h'
    case h_1 value hl' => exact absurd hl' (hl value)
    case h_2 => exact Option.some.inj (h.symm.trans h')

/-- A lexeme that is no number moves as its token does. -/
lemma Lexeme.movesTo_of_offset? {l : Lexeme} {t : Token} (hl : ∀ n, l.token ≠ .number n)
    (ht : l.token.offset? shift = some t) : l.MovesTo shift t := by
  unfold MovesTo
  split
  case h_1 value hvalue => exact absurd hvalue (hl value)
  case h_2 => exact ht

/-- A moved token is an operand, or goes on with one, just when it was or did so before. -/
lemma Lexeme.MovesTo.kind {l : Lexeme} {t : Token} (h : l.MovesTo shift t) :
    (t.IsOperand ↔ l.token.IsOperand) ∧ (t.Continues ↔ l.token.Continues) := by
  unfold MovesTo at h
  split at h
  case h_1 value hl =>
    obtain ⟨n, rfl, -⟩ := h
    rw [hl]
    exact ⟨Iff.rfl, Iff.rfl⟩
  case h_2 =>
    cases hl : l.token with
    | cell a =>
      rw [hl] at h
      simp only [Token.offset?, Option.bind_eq_bind, Option.bind_eq_some_iff] at h
      obtain ⟨a', -, h⟩ := h
      cases h
      exact ⟨Iff.rfl, Iff.rfl⟩
    | _ =>
      rw [hl] at h
      cases h
      exact ⟨Iff.rfl, Iff.rfl⟩

/-- Moved tokens may stand behind each other as the tokens did, since they are of the same kinds. -/
lemma adjacent_of_movesTo {ls : List Lexeme} {ts : List Token}
    (h : List.Forall₂ (Lexeme.MovesTo shift) ls ts) (hadj : Adjacent (ls.map Lexeme.token)) :
    Adjacent ts := by
  induction h with
  | nil => exact .nil
  | @cons l t ls ts hl hls ih =>
    obtain ⟨hhead, htail⟩ := List.isChain_cons.mp hadj
    refine List.isChain_cons.mpr ⟨?_, ih htail⟩
    cases hls with
    | nil => simp
    | @cons l' t' _ _ hl' _ =>
      rintro _ ⟨⟩ ht
      exact hl'.kind.2.mpr (hhead l'.token rfl (hl.kind.1.mp ht))

/-- A moved lexeme is a lexeme again, or its text cannot be split as part of an expression. -/
lemma Leads.move {l : Lexeme} {rest : List Char} {ls : List Lexeme} (h : Leads l rest)
    (hls : Lexes rest ls) (hadj : Adjacent (l.token :: ls.map Lexeme.token)) {u : Token}
    (hu : l.token.offset? shift = some u) :
    (∃ t w, l.MovesTo shift t ∧ shift.move [] (l.chars ++ rest) = w ++ shift.move [] rest ∧
      Leads ⟨t, w⟩ (shift.move [] rest)) ∨
    (∀ t, ¬l.MovesTo shift t) ∧
      ∀ ls', Lexes (shift.move [] (l.chars ++ rest)) ls' → ¬Adjacent (ls'.map Lexeme.token) := by
  cases h with
  | @number c cs _ n starts part value finite =>
    have hclosed : Closed rest := hls.closed hadj trivial
    rcases @leads_move_number shift _ _ _ _ starts part ⟨value, finite⟩ hclosed with
      ⟨n', hn', happend, hleads⟩ | ⟨hnot, hlexes⟩
    · exact .inl ⟨.number n', _, ⟨n', rfl, hn'⟩, happend, hleads⟩
    · refine .inr ⟨?_, hlexes⟩
      rintro t ⟨n', -, hn'⟩
      exact hnot ⟨n', hn'⟩
  | word start all stop =>
    left
    obtain ⟨w, hmove, hleads⟩ := leads_move_word start all stop hls hadj hu
    refine ⟨u, w, Lexeme.movesTo_of_offset? ?_ hu, hmove, hleads⟩
    intro n
    dsimp only
    unfold ofWord
    split <;> simp
  | text quoted stop part =>
    left
    obtain ⟨hmove, hleads⟩ := leads_move_text quoted stop part
    exact ⟨_, _, rfl, hmove, hleads⟩
  | mark found =>
    left
    obtain ⟨hmove, hleads⟩ := @leads_move_mark shift _ _ _ _ found
    obtain ⟨htoken, hnumber⟩ := @mark?_token shift _ _ _ _ found
    exact ⟨_, _, Lexeme.movesTo_of_offset? hnumber htoken, hmove, hleads⟩

/-- The moved text splits as part of an expression exactly when each of its numbers still names a
number, and then into the moved tokens. -/
lemma Lexes.move_iff {cs : List Char} {ls : List Lexeme} (h : Lexes cs ls)
    (hadj : Adjacent (ls.map Lexeme.token)) {us : List Token}
    (hus : Moves shift (ls.map Lexeme.token) us) (ts : List Token) :
    (∃ ls', Lexes (shift.move [] cs) ls' ∧ Adjacent (ls'.map Lexeme.token) ∧
      ls'.map Lexeme.token = ts) ↔ List.Forall₂ (Lexeme.MovesTo shift) ls ts := by
  induction h generalizing us ts with
  | nil =>
    rw [Shift.move_nil, Shift.word_of_head (by simp), List.forall₂_nil_left_iff]
    constructor
    · rintro ⟨ls', hls', -, rfl⟩
      rw [Lexes.nil_iff.mp hls']
      rfl
    · rintro rfl
      exact ⟨[], .nil, .nil, rfl⟩
  | @blank c cs ls white others ih =>
    rw [Shift.move_nil_blank white]
    simp only [Lexes.blank_iff white]
    exact ih hadj hus ts
  | @lexeme l rest ls leads others ih =>
    obtain ⟨u, us', hu, hus', -⟩ := List.forall₂_cons_left_iff.mp hus
    have hrest := ih (List.isChain_cons.mp hadj).2 hus'
    rcases leads.move others hadj hu with ⟨t, w, ht, hmove, hleads⟩ | ⟨hnot, hlexes⟩
    · rw [hmove]
      constructor
      · rintro ⟨ls', hls', hadj', rfl⟩
        obtain ⟨ls'', rfl, hls''⟩ := hleads.lexes_iff.mp hls'
        exact .cons ht ((hrest _).mp ⟨ls'', hls'', (List.isChain_cons.mp hadj').2, rfl⟩)
      · intro hmoves
        obtain ⟨t', ts, ht', hts, rfl⟩ := List.forall₂_cons_left_iff.mp hmoves
        obtain rfl : t = t' := ht.unique ht'
        obtain ⟨ls', hls', -, rfl⟩ := (hrest ts).mpr hts
        exact ⟨⟨t, w⟩ :: ls', hleads.lexes_iff.mpr ⟨ls', rfl, hls'⟩,
          adjacent_of_movesTo hmoves hadj, rfl⟩
    · constructor
      · rintro ⟨ls', hls', hadj', rfl⟩
        exact absurd hadj' (hlexes ls' hls')
      · intro hmoves
        obtain ⟨t, ts, ht, -, -⟩ := List.forall₂_cons_left_iff.mp hmoves
        exact absurd ht (hnot t)

/-! ## Moved formulas -/

/-- A lexeme that is a number starts like one, takes the characters that a number takes there, and
these write its value. -/
lemma Leads.number_inv {n : Number} {w rest : List Char} (h : Leads ⟨.number n, w⟩ rest) :
    ∃ c cs, w = c :: cs ∧ startsNumber c (cs ++ rest) = true ∧
      numberPart (c :: cs ++ rest) = c :: cs ∧ Names w n := by
  generalize hl : (⟨.number n, w⟩ : Lexeme) = l at h
  cases h with
  | number starts part value finite =>
    cases hl
    exact ⟨_, _, rfl, starts, part, value, finite⟩
  | @word c cs _ =>
    have htoken : Token.number n = ofWord (c :: cs) := congrArg Lexeme.token hl
    unfold ofWord at htoken
    split at htoken <;> cases htoken
  | text => cases hl
  | mark found =>
    cases hl
    exact absurd rfl ((@mark?_token ⟨0, 0⟩ _ _ _ _ found).2 n)

/-- Each number of a text is written by its characters, and it is finite. -/
lemma Lexes.names {cs : List Char} {ls : List Lexeme} (h : Lexes cs ls) {n : Number} {w : List Char}
    (hmem : ⟨.number n, w⟩ ∈ ls) : Names w n := by
  obtain ⟨_, rest, -, leads⟩ := h.exists_leads hmem
  obtain ⟨c, cs, -, -, -, hnames⟩ := leads.number_inv
  exact hnames

/-- Numbers that are the same in all keep their values one by one. -/
lemma names_of_movesTo {ls : List Lexeme} {ts : List Token}
    (h : List.Forall₂ (Lexeme.MovesTo shift) ls ts)
    (hnumbers : ts.filterMap Token.number? = (ls.map Lexeme.token).filterMap Token.number?)
    {n : Number} {w : List Char} (hmem : ⟨.number n, w⟩ ∈ ls) : Names (shift.move [] w) n := by
  induction h with
  | nil => cases hmem
  | @cons l t ls ts hl _ ih =>
    rw [List.map_cons, List.filterMap_cons, List.filterMap_cons] at hnumbers
    unfold Lexeme.MovesTo at hl
    split at hl
    case h_1 value hvalue =>
      obtain ⟨n', rfl, hn'⟩ := hl
      simp only [hvalue, Token.number?, List.cons.injEq] at hnumbers
      obtain ⟨rfl, hnumbers⟩ := hnumbers
      rcases List.mem_cons.mp hmem with rfl | hmem
      · cases hvalue
        exact hn'
      · exact ih hnumbers hmem
    case h_2 hvalue =>
      have hnone : l.token.number? = none := by
        cases hl' : l.token with
        | number value => exact absurd hl' (hvalue value)
        | _ => rfl
      rw [Token.number?_of_offset? hl, hnone] at hnumbers
      rcases List.mem_cons.mp hmem with rfl | hmem
      · exact absurd rfl (hvalue n)
      · exact ih hnumbers hmem

/-- Lexemes move to the moved tokens if each number keeps its value. -/
lemma movesTo_of_names {ls : List Lexeme} {us : List Token}
    (h : Moves shift (ls.map Lexeme.token) us)
    (hnames : ∀ n w, ⟨.number n, w⟩ ∈ ls → Names (shift.move [] w) n) :
    List.Forall₂ (Lexeme.MovesTo shift) ls us := by
  have hall : ∀ l ∈ ls, ∀ n, l.token = .number n → Names (shift.move [] l.chars) n := by
    rintro ⟨t, w⟩ hl n rfl
    exact hnames n w hl
  refine ((List.forall₂_and_left _ _).mpr ⟨hall, List.forall₂_map_left_iff.mp h⟩).imp ?_
  rintro l u ⟨hl, hu⟩
  by_cases hnumber : ∃ n, l.token = .number n
  · obtain ⟨n, hn⟩ := hnumber
    rw [hn] at hu
    cases hu
    unfold Lexeme.MovesTo
    rw [hn]
    exact ⟨n, rfl, hl n hn⟩
  · exact Lexeme.movesTo_of_offset? (not_exists.mp hnumber) hu

/-- A text is read as a tree exactly if its lexemes are those of an expression within the limits. -/
lemma Expr.ofText_eq_ok_iff_lexes {limits : Limits} {s : String} {e : Expr} :
    Expr.ofText limits s = .ok e ↔
      ∃ ls, Lexes s.toList ls ∧ Fits limits 0 0 0 (ls.map Lexeme.token) e := by
  rw [Expr.ofText_eq_ok_iff]
  constructor
  · rintro ⟨ts, found, hs, hfound, hfits⟩
    obtain ⟨ls, hls, rfl⟩ := tokens_eq_ok_iff.mp ⟨found, hs, hfound⟩
    exact ⟨ls, hls, hfits⟩
  · rintro ⟨ls, hls, hfits⟩
    obtain ⟨found, hs, hfound⟩ := tokens_eq_ok_iff.mpr ⟨ls, hls, rfl⟩
    exact ⟨_, found, hs, hfound, hfits⟩

/-- A formula is read without the sign in front of it, and otherwise as it stands. -/
lemma body_suffix (f : String) : (body f).toList <:+ f.toList := by
  unfold body
  split
  case h_1 cs hcs =>
    rw [hcs, String.toList_ofList]
    exact List.suffix_cons '=' cs
  case h_2 => exact List.suffix_rfl

/-- The sign in front of a formula stays where it is. -/
lemma toList_body_shifted (h : ¬(shift.columns = 0 ∧ shift.rows = 0)) (f : String) :
    (body (shifted shift f)).toList = shift.move [] (body f).toList := by
  have hequals : ∀ cs, shift.move [] ('=' :: cs) = '=' :: shift.move [] cs :=
    Shift.move_nil_other (by decide) (by decide)
  have hshifted : (shifted shift f).toList = shift.move [] f.toList := by
    rw [shifted, if_neg h, String.toList_ofList, Shift.apply_eq_move]
  unfold body
  split
  case h_1 cs hcs =>
    rw [hshifted] at hcs
    have hhead : '=' ∈ f.toList.head? := by
      rw [← Shift.mem_head?_move (by decide) (by decide), hcs]
      rfl
    obtain ⟨ds, hds⟩ := List.head?_eq_some_iff.mp hhead
    rw [hds, hequals] at hcs
    obtain ⟨-, rfl⟩ := List.cons.inj hcs
    simp [hds]
  case h_2 hne =>
    split
    case h_1 ds hds =>
      rw [hshifted, hds] at hne
      exact absurd (hequals ds) (hne _)
    case h_2 => exact hshifted

/-- Under a shift that moves something, the moved text of a formula is read as the moved tree
exactly when each number of the formula, moved like any other text, still writes the same value. -/
lemma Expr.ofText_moved_iff {limits : Limits} {f : String} {e e' : Expr} {ls : List Lexeme}
    (hshift : ¬(shift.columns = 0 ∧ shift.rows = 0)) (he' : e.offset? shift = some e')
    (hls : Lexes (body f).toList ls) (he : Fits limits 0 0 0 (ls.map Lexeme.token) e) :
    Expr.ofText limits (body (shifted shift f)) = .ok e' ↔
      ∀ n w, ⟨.number n, w⟩ ∈ ls → Names (shift.move [] w) n := by
  obtain ⟨d, c, hder, hd, hc⟩ := he
  obtain ⟨us, hus, hder'⟩ := hder.offset he'
  rw [Expr.ofText_eq_ok_iff_lexes, toList_body_shifted hshift]
  constructor
  · rintro ⟨ls', hls', d', c', hder'', -, -⟩ n w hmem
    have hmoves := (hls.move_iff hder.adjacent hus _).mp ⟨ls', hls', hder''.adjacent, rfl⟩
    have hnumbers : (ls'.map Lexeme.token).filterMap Token.number? =
        (ls.map Lexeme.token).filterMap Token.number? := by
      rw [hder''.numbers_eq, ← hder'.numbers_eq, hus.numbers_eq]
    exact names_of_movesTo hmoves hnumbers hmem
  · intro hnames
    have hmoves := movesTo_of_names hus hnames
    obtain ⟨ls', hls', -, rfl⟩ := (hls.move_iff hder.adjacent hus us).mpr hmoves
    exact ⟨ls', hls', d, c, hder', hd, hc⟩

/-- A formula that is read as a tree is read, after a shift within the grid, as the shifted tree
exactly when the text of each of its numbers, shifted like any other text, still names the same
number.  Only an exponent directly behind a point, as in `1.E5`, can be taken for a reference. -/
theorem Expr.ofText_shifted_iff (limits : Limits) (shift : Shift) (f : String) (e e' : Expr)
    (he : Expr.ofText limits (body f) = .ok e) (he' : e.offset? shift = some e') :
    Expr.ofText limits (body (shifted shift f)) = .ok e' ↔
      ∀ n w, ⟨.number n, w⟩ ∈ lexemes (body f).toList →
        numeral? (shifted shift (String.ofList w)).toList = some n := by
  obtain ⟨ls, hls, hfits⟩ := Expr.ofText_eq_ok_iff_lexes.mp he
  rw [hls.lexemes_eq]
  by_cases hzero : shift.columns = 0 ∧ shift.rows = 0
  · obtain ⟨columns, rows⟩ := shift
    obtain ⟨rfl, rfl⟩ := hzero
    rw [Expr.offset?_zero] at he'
    cases he'
    simp only [shifted, and_self, if_true, he, true_iff, String.toList_ofList]
    exact fun n w hmem => (hls.names hmem).1
  · have hword : ∀ w, (shifted shift (String.ofList w)).toList = shift.move [] w := by
      intro w
      rw [shifted, if_neg hzero, String.toList_ofList, String.toList_ofList, Shift.apply_eq_move]
    rw [Expr.ofText_moved_iff hzero he' hls hfits]
    simp only [hword]
    constructor
    · intro hnames n w hmem
      exact (hnames n w hmem).1
    · intro hnumerals n w hmem
      exact ⟨hnumerals n w hmem, (hls.names hmem).2⟩

/-- The shift of a sum of a reference and a number: the number keeps its value, and the shifted text
reads as the shifted tree. -/
theorem Expr.ofText_shifted_iff_sum :
    let two : Expr := .number (Binary.ofDecimal false ⟨2, 0⟩)
    Expr.ofText {} (body (shifted ⟨1, 2⟩ "=A1+2")) =
        .ok (.binary .add (.cell ⟨⟨3, by decide, by decide⟩, ⟨2, by decide, by decide⟩⟩) two) ∧
      ∀ n w, ⟨.number n, w⟩ ∈ lexemes (body "=A1+2").toList →
        numeral? (shifted ⟨1, 2⟩ (String.ofList w)).toList = some n := by
  intro two
  have hiff := Expr.ofText_shifted_iff {} ⟨1, 2⟩ "=A1+2"
    (.binary .add (.cell ⟨⟨1, by decide, by decide⟩, ⟨1, by decide, by decide⟩⟩) two)
    (.binary .add (.cell ⟨⟨3, by decide, by decide⟩, ⟨2, by decide, by decide⟩⟩) two)
    (by decide +kernel) (by decide +kernel)
  have hread : Expr.ofText {} (body (shifted ⟨1, 2⟩ "=A1+2")) =
      .ok (.binary .add (.cell ⟨⟨3, by decide, by decide⟩, ⟨2, by decide, by decide⟩⟩) two) := by
    decide +kernel
  exact ⟨hread, hiff.mp hread⟩

/-- A shift need not shift the tree: one row down, the number `1.E5` becomes `1.E6`. -/
theorem Expr.not_ofText_shifted : ¬∀ (limits : Limits) (shift : Shift) (f : String) (e e' : Expr),
    Expr.ofText limits (body f) = .ok e → e.offset? shift = some e' →
      Expr.ofText limits (body (shifted shift f)) = .ok e' := by
  intro h
  have hnumber := h {} ⟨0, 1⟩ "=1.E5" (.number (Binary.ofDecimal false ⟨1, 5⟩)) _
    (by decide +kernel) rfl
  have hmoved : Expr.ofText {} (body (shifted ⟨0, 1⟩ "=1.E5")) =
      .ok (.number (Binary.ofDecimal false ⟨1, 6⟩)) := by decide +kernel
  rw [hmoved] at hnumber
  revert hnumber
  decide +kernel

/-! ## Formulas that shift as they should -/

/-- Digits, a point and directly behind it the text of an address, as in `1.E5`. -/
def HidesAddress (w : List Char) : Prop :=
  ∃ digits exponent a, w = digits ++ '.' :: exponent ∧ digits.all Char.isDigit = true ∧
    Address.read? exponent = some a

example : HidesAddress "1.E5".toList :=
  ⟨['1'], ['E', '5'], ⟨⟨5, by decide, by decide⟩, ⟨5, by decide, by decide⟩⟩, rfl, rfl, by
    decide +kernel⟩

/-- A number keeps its value unless its exponent stands directly behind the point and may be taken
for an address: any other number is left as it is. -/
lemma Lexes.names_move {cs : List Char} {ls : List Lexeme} (h : Lexes cs ls) {n : Number}
    {w : List Char} (hmem : ⟨.number n, w⟩ ∈ ls) (hw : ¬HidesAddress w) :
    Names (shift.move [] w) n := by
  obtain ⟨_, rest, -, leads⟩ := h.exists_leads hmem
  obtain ⟨c, cs, rfl, starts, part, hnames⟩ := leads.number_inv
  obtain ⟨hnumeral, hupper⟩ := isNumeral_of_startsNumber starts part
  rcases @Shift.move_numeral shift _ hnumeral hupper with
    hsame | ⟨digits, exponent, a, hsplit, hdigits, -, hread, -⟩
  · rw [hsame]
    exact hnames
  · exact absurd ⟨digits, exponent, a, hsplit, hdigits, hread⟩ hw

/-- The only letter with which an address can start inside a number is the capital mark of its
exponent. -/
lemma HidesAddress.point_capital {w : List Char} (h : HidesAddress w) (hw : IsNumeral w) :
    ['.', 'E'] <:+: w := by
  obtain ⟨digits, exponent, a, rfl, -, hread⟩ := h
  obtain ⟨letters, ds, rfl, hne, hletters, -⟩ := Address.shape_of_read? hread
  obtain ⟨c, letters, rfl⟩ := List.exists_cons_of_ne_nil hne
  rw [List.all_cons, Bool.and_eq_true] at hletters
  have hc : c = 'E' := by
    rcases hw.isDigit_or_mem c (by simp) with hdigit | hmark
    · rw [Text.isDigit_of_isUpper hletters.1] at hdigit
      cases hdigit
    · have hmarks : (numeralMarks.all fun c => !c.isUpper || c == 'E') = true := by decide
      simpa [hletters.1] using List.all_eq_true.mp hmarks c hmark
  exact ⟨digits, letters ++ ds, by simp [hc]⟩

/-- A formula that is read as a tree is read, after a shift within the grid, as the shifted tree if
none of its numbers is written with an exponent like an address directly behind the point. -/
theorem Expr.ofText_shifted {limits : Limits} {shift : Shift} {f : String} {e e' : Expr}
    (he : Expr.ofText limits (body f) = .ok e) (he' : e.offset? shift = some e')
    (h : ∀ n w, ⟨.number n, w⟩ ∈ lexemes (body f).toList → ¬HidesAddress w) :
    Expr.ofText limits (body (shifted shift f)) = .ok e' := by
  obtain ⟨ls, hls, hfits⟩ := Expr.ofText_eq_ok_iff_lexes.mp he
  rw [hls.lexemes_eq] at h
  by_cases hzero : shift.columns = 0 ∧ shift.rows = 0
  · obtain ⟨columns, rows⟩ := shift
    obtain ⟨rfl, rfl⟩ := hzero
    rw [Expr.offset?_zero] at he'
    cases he'
    rw [shifted, if_pos ⟨rfl, rfl⟩]
    exact he
  · rw [Expr.ofText_moved_iff hzero he' hls hfits]
    exact fun n w hmem => hls.names_move hmem (h n w hmem)

/-- In particular a formula shifts as it should if none of its points has a capital `E` behind it,
whatever else its characters are. -/
theorem Expr.ofText_shifted_of_not_point_capital {limits : Limits} {shift : Shift} {f : String}
    {e e' : Expr} (he : Expr.ofText limits (body f) = .ok e) (he' : e.offset? shift = some e')
    (h : ¬['.', 'E'] <:+: f.toList) : Expr.ofText limits (body (shifted shift f)) = .ok e' := by
  refine Expr.ofText_shifted he he' fun n w hmem hhides => h ?_
  obtain ⟨ls, hls, -⟩ := Expr.ofText_eq_ok_iff_lexes.mp he
  rw [hls.lexemes_eq] at hmem
  obtain ⟨before, rest, hsplit, leads⟩ := hls.exists_leads hmem
  obtain ⟨c, cs, rfl, starts, part, -⟩ := leads.number_inv
  have hcapital := hhides.point_capital (isNumeral_of_startsNumber starts part).1
  have hbody : c :: cs <:+: (body f).toList := ⟨before, rest, by rw [hsplit, List.append_assoc]⟩
  exact (hcapital.trans hbody).trans (body_suffix f).isInfix

end Formula

end Spreadsheet
