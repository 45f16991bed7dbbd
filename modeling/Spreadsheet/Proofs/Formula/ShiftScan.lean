import Spreadsheet.Formula.Shift
import Spreadsheet.Proofs.Formula.Lexemes
import Spreadsheet.Proofs.Formula.Offset
import Spreadsheet.Proofs.Grid.AddressText

/-!
# The scan that shifts a formula

`Formula.Shift` scans a text once, with a part that is done, a word under way and a mark for
literals.  `Shift.move` and `Shift.literal` say what is still to come from either side of a quote,
and their equations describe the scan without its accumulators: words outside literals move one by
one, and everything else stays.

Two consequences serve the reading of shifted formulas.  What is no word keeps its first character
(`Shift.mem_head?_move`), so that nothing runs into what stood in front of it.  A number
consists of words that are no references, with one exception: behind a point without decimals, the
exponent is a word of its own and may be written like a reference, as in `1.E5`
(`Shift.move_numeral`).
-/

namespace Spreadsheet

namespace Formula

/-! ## The scan -/

namespace Shift

/-- What the rest of the characters become behind a scanned part. -/
def finish (shift : Shift) (s : Scan) (cs : List Char) : List Char :=
  (shift.settle (cs.foldl shift.step s) false).reverse

/-- What characters outside literals become, behind the start of a word. -/
def move (shift : Shift) (word cs : List Char) : List Char :=
  shift.finish ⟨[], word.reverse, false⟩ cs

/-- What characters inside a literal become. -/
def literal (shift : Shift) (cs : List Char) : List Char :=
  shift.finish ⟨[], [], true⟩ cs

variable (shift : Shift)

/-- The shift of a text starts outside literals and with no word under way. -/
lemma apply_eq_move (cs : List Char) : shift.apply cs = shift.move [] cs :=
  rfl

/-- What the scan has written so far stays in front of all that it writes later. -/
lemma finish_done (done word cs : List Char) (inLiteral : Bool) :
    shift.finish ⟨done, word, inLiteral⟩ cs =
      done.reverse ++ shift.finish ⟨[], word, inLiteral⟩ cs := by
  induction cs generalizing done word inLiteral with
  | nil => simp [finish, settle]
  | cons c cs ih =>
    have hstep : ∃ more word' inLiteral', shift.step ⟨done, word, inLiteral⟩ c =
        ⟨more ++ done, word', inLiteral'⟩ ∧
          shift.step ⟨[], word, inLiteral⟩ c = ⟨more, word', inLiteral'⟩ := by
      unfold step settle
      split
      · exact ⟨[c], word, c ≠ '"', rfl, rfl⟩
      · split
        · exact ⟨[], c :: word, inLiteral, rfl, rfl⟩
        · split
          · exact ⟨c :: word, [], c = '"', rfl, by simp⟩
          · exact ⟨c :: (shift.word word.reverse).reverse, [], c = '"', by simp, by simp⟩
    obtain ⟨more, word', inLiteral', hdone, hnil⟩ := hstep
    have hfinish : ∀ s, shift.finish s (c :: cs) = shift.finish (shift.step s c) cs := fun _ => rfl
    rw [hfinish, hfinish, hdone, hnil, ih (more ++ done), ih more, List.reverse_append,
      List.append_assoc]

/-- At the end of the text the word under way is complete. -/
lemma move_nil (word : List Char) : shift.move word [] = shift.word word := by
  simp [move, finish, settle]

/-- A word character goes on with the word under way. -/
lemma move_word {c : Char} (hc : Text.isWordChar c = true) (word cs : List Char) :
    shift.move word (c :: cs) = shift.move (word ++ [c]) cs := by
  simp [move, finish, step, hc]

/-- A quote completes the word under way and opens a literal. -/
lemma move_quote (word cs : List Char) :
    shift.move word ('"' :: cs) = shift.word word ++ '"' :: shift.literal cs := by
  have hstep : shift.step ⟨[], word.reverse, false⟩ '"' =
      ⟨'"' :: (shift.word word).reverse, [], true⟩ := by
    simp [step, settle, Text.isWordChar, Text.isAlphanum_eq]
  change shift.finish (shift.step _ _) _ = _
  rw [hstep, finish_done]
  simp [literal]

/-- Any other character completes the word under way, which stays as it is in front of an opening
parenthesis. -/
lemma move_other {c : Char} (hc : Text.isWordChar c = false) (hquote : c ≠ '"')
    (word cs : List Char) : shift.move word (c :: cs) =
      (if c = '(' then word else shift.word word) ++ c :: shift.move [] cs := by
  have hstep : shift.step ⟨[], word.reverse, false⟩ c =
      ⟨c :: (if c = '(' then word else shift.word word).reverse, [], false⟩ := by
    by_cases hparen : c = '('
    · subst hparen
      simp [step, settle, hc]
    · simp [step, settle, hc, hquote, hparen]
  change shift.finish (shift.step _ _) _ = _
  rw [hstep, finish_done]
  simp [move]

/-- Inside a literal a quote closes it, and the scan goes on outside of it. -/
lemma literal_quote (cs : List Char) : shift.literal ('"' :: cs) = '"' :: shift.move [] cs := by
  change shift.finish ⟨['"'], [], false⟩ cs = _
  rw [finish_done]
  rfl

/-- Other characters inside a literal stay as they are. -/
lemma literal_other {c : Char} (hc : c ≠ '"') (cs : List Char) :
    shift.literal (c :: cs) = c :: shift.literal cs := by
  have hstep : shift.step ⟨[], [], true⟩ c = ⟨[c], [], true⟩ := by simp [step, hc]
  change shift.finish (shift.step _ _) _ = _
  rw [hstep, finish_done]
  rfl

/-! ## Words -/

variable {shift}

/-- A word that starts with no capital letter is no reference. -/
lemma word_of_head {cs : List Char} (h : ∀ c ∈ cs.head?, c.isUpper = false) :
    shift.word cs = cs := by
  have hread : Address.read? cs = none := by
    have htake : cs.takeWhile Char.isUpper = [] := by
      cases cs with
      | nil => rfl
      | cons c cs => rw [List.takeWhile_cons_of_neg (by simp [h c rfl])]
    rw [Address.read?, htake]
    rfl
  rw [word, hread]

/-- A character that is neither in a word nor a quote is kept, and no word is under way behind it.
-/
lemma move_nil_other {c : Char} (hc : Text.isWordChar c = false) (hquote : c ≠ '"')
    (cs : List Char) : shift.move [] (c :: cs) = c :: shift.move [] cs := by
  rw [move_other _ hc hquote, word_of_head (by simp), ite_self, List.nil_append]

/-- White space stays where it is, and no word goes on behind it. -/
lemma move_nil_blank {c : Char} (white : Text.isBlankChar c = true) (cs : List Char) :
    shift.move [] (c :: cs) = c :: shift.move [] cs := by
  refine move_nil_other (Text.isWordChar_of_isBlankChar white) ?_ cs
  rintro rfl
  exact absurd white (by decide)

/-- A word that does not read as an address stays as it is. -/
lemma word_of_read? {cs : List Char} (h : Address.read? cs = none) : shift.word cs = cs := by
  rw [word, h]

/-- A word that is an address becomes the text of the moved address, if this is on the grid. -/
lemma word_of_address {cs : List Char} {a a' : Address} (h : Address.read? cs = some a)
    (ha : shift.address? a = some a') : shift.word cs = a'.chars := by
  rw [address?] at ha
  rw [word, h]
  simp only [ha]

/-- A word that does not go on moves as a whole, unless an argument list follows. -/
lemma move_of_not_word {rest : List Char} (hrest : ∀ c ∈ rest.head?, Text.isWordChar c = false)
    (word : List Char) : shift.move word rest =
      (if rest.head? = some '(' then word else shift.word word) ++ shift.move [] rest := by
  have hempty : shift.word [] = [] := word_of_head (by simp)
  cases rest with
  | nil => simp [move_nil, hempty]
  | cons c cs =>
    by_cases hquote : c = '"'
    · subst hquote
      simp [move_quote, hempty]
    · simp [move_other, hrest c rfl, hquote, hempty]

/-- Word characters in a row go on with the word under way. -/
lemma move_append_word {word more : List Char} (hmore : more.all Text.isWordChar = true)
    (rest : List Char) : shift.move word (more ++ rest) = shift.move (word ++ more) rest := by
  induction more generalizing word with
  | nil => simp
  | cons c more ih =>
    rw [List.all_cons, Bool.and_eq_true] at hmore
    rw [List.cons_append, move_word _ hmore.1, ih hmore.2]
    simp

/-- Characters outside literals move apart from what follows them, if that is neither part of their
last word nor an argument list. -/
lemma move_append {w rest : List Char} (hw : '"' ∉ w)
    (hrest : ∀ c ∈ rest.head?, Text.isWordChar c = false) (hparen : '(' ∉ rest.head?)
    (word : List Char) : shift.move word (w ++ rest) = shift.move word w ++ shift.move [] rest := by
  induction w generalizing word with
  | nil =>
    have hnot : ¬rest.head? = some '(' := hparen
    rw [List.nil_append, move_of_not_word hrest, if_neg hnot, move_nil]
  | cons c w ih =>
    rw [List.mem_cons, not_or] at hw
    cases hc : Text.isWordChar c with
    | true => rw [List.cons_append, move_word _ hc, move_word _ hc, ih hw.2]
    | false =>
      have hquote : c ≠ '"' := Ne.symm hw.1
      rw [List.cons_append, move_other _ hc hquote, move_other _ hc hquote, ih hw.2]
      simp

/-- The rest of a literal stays as it is, up to and with the quote that closes it. -/
lemma literal_append {part : List Char} (h : IsQuoted part) (rest : List Char) :
    shift.literal (part ++ rest) = part ++ shift.move [] rest := by
  have hempty : shift.word [] = [] := word_of_head (by simp)
  induction h with
  | close => exact literal_quote shift rest
  | doubled others ih => simp [literal_quote, move_quote, hempty, ih]
  | other ne others ih => simp [literal_other, ne, ih]

/-- The characters start with a word or with the mark of a lost reference. -/
def StartsWord (cs : List Char) : Prop :=
  ∃ c, c ∈ cs.head? ∧ (Text.isWordChar c = true ∨ c = '#')

/-- What starts with a word does so in front of anything. -/
lemma StartsWord.append {cs : List Char} (h : StartsWord cs) (more : List Char) :
    StartsWord (cs ++ more) := by
  obtain ⟨c, hc, hchar⟩ := h
  exact ⟨c, by simp [Option.mem_def.mp hc], hchar⟩

/-- Characters of words, if there are any, start with a word. -/
lemma startsWord_of_all {w : List Char} (hne : w ≠ []) (hw : w.all Text.isWordChar = true) :
    StartsWord w := by
  obtain ⟨c, cs, rfl⟩ := List.exists_cons_of_ne_nil hne
  rw [List.all_cons, Bool.and_eq_true] at hw
  exact ⟨c, rfl, .inl hw.1⟩

/-- The text of an address starts with a word, namely with its column. -/
lemma startsWord_chars (a : Address) : StartsWord a.chars := by
  obtain ⟨c, letters, hletters, hc, -⟩ := Column.exists_letters_eq_cons a.column
  exact ⟨c, by rw [Address.chars, hletters]; rfl, .inl (Text.isWordChar_of_isUpper hc)⟩

/-- A moved word starts with a word, or with the mark of a lost reference. -/
lemma startsWord_word {w : List Char} (hne : w ≠ []) (hw : w.all Text.isWordChar = true) :
    StartsWord (shift.word w) := by
  unfold word
  split
  case h_1 => exact startsWord_of_all hne hw
  case h_2 a _ =>
    split
    case h_1 a' _ => exact startsWord_chars a'
    case h_2 => exact ⟨'#', rfl, .inr rfl⟩

/-- Where a word is under way, the moved text starts with a word as well. -/
lemma startsWord_move {w : List Char} (hne : w ≠ []) (hw : w.all Text.isWordChar = true)
    (cs : List Char) : StartsWord (shift.move w cs) := by
  induction cs generalizing w with
  | nil =>
    rw [move_nil]
    exact startsWord_word hne hw
  | cons c cs ih =>
    cases hc : Text.isWordChar c with
    | true =>
      rw [move_word _ hc]
      exact ih (by simp) (by simp [hw, hc])
    | false =>
      by_cases hquote : c = '"'
      · subst hquote
        rw [move_quote]
        exact (startsWord_word hne hw).append _
      · rw [move_other _ hc hquote]
        apply StartsWord.append
        split
        · exact startsWord_of_all hne hw
        · exact startsWord_word hne hw

/-- Where no word starts, the first character stays. -/
lemma head?_move_of_not_word {rest : List Char}
    (hrest : ∀ c ∈ rest.head?, Text.isWordChar c = false) :
    (shift.move [] rest).head? = rest.head? := by
  have hempty : shift.word [] = [] := word_of_head (by simp)
  cases rest with
  | nil => simp [move_nil, hempty]
  | cons c cs =>
    by_cases hquote : c = '"'
    · subst hquote
      simp [move_quote, hempty]
    · simp [move_other, hrest c rfl, hquote, hempty]

/-- A character of no word, other than the `#` of a lost reference, is first after the move just
when it was first before. -/
lemma mem_head?_move {c : Char} (hc : Text.isWordChar c = false) (hhash : c ≠ '#')
    (cs : List Char) : c ∈ (shift.move [] cs).head? ↔ c ∈ cs.head? := by
  cases cs with
  | nil => rw [head?_move_of_not_word (by simp)]
  | cons d cs =>
    cases hd : Text.isWordChar d with
    | false =>
      rw [head?_move_of_not_word]
      rintro _ ⟨⟩
      exact hd
    | true =>
      rw [move_word _ hd]
      obtain ⟨e, he, hchar⟩ : StartsWord (shift.move [d] cs) :=
        startsWord_move (by simp) (by simp [hd]) cs
      constructor
      · intro hmem
        obtain rfl : e = c := Option.some.inj (he.symm.trans hmem)
        rcases hchar with hchar | rfl
        · rw [hc] at hchar
          cases hchar
        · exact absurd rfl hhash
      · rintro ⟨⟩
        rw [hc] at hd
        cases hd

/-! ## Numbers -/

/-- A text that is one word is moved as this word. -/
lemma move_all_word {w : List Char} (hw : w.all Text.isWordChar = true) :
    shift.move [] w = shift.word w := by
  have h := @move_append_word shift [] w hw []
  rwa [List.append_nil, List.nil_append, move_nil] at h

/-- A word that starts with digits is no address, and stays as it is. -/
lemma word_of_digit {digits : List Char} (hne : digits ≠ [])
    (hdigits : digits.all Char.isDigit = true) (more : List Char) :
    shift.word (digits ++ more) = digits ++ more := by
  obtain ⟨d, ds, rfl⟩ := List.exists_cons_of_ne_nil hne
  rw [List.all_cons, Bool.and_eq_true] at hdigits
  apply word_of_head
  rintro _ ⟨⟩
  exact Text.isUpper_of_isDigit hdigits.1

/-- Digits alone stay as they are, since an address starts with letters. -/
lemma word_digits {digits : List Char} (hdigits : digits.all Char.isDigit = true) :
    shift.word digits = digits := by
  by_cases hne : digits = []
  · subst hne
    exact word_of_head (by simp)
  · simpa using word_of_digit hne hdigits []

lemma all_isWordChar_of_digits {digits : List Char} (h : digits.all Char.isDigit = true) :
    digits.all Text.isWordChar = true :=
  List.all_eq_true.mpr fun d hd => Text.isWordChar_of_isDigit (List.all_eq_true.mp h d hd)

/-- Digits with an exponent mark behind them are no reference, so they stay as they are. -/
lemma word_digits_mark {digits : List Char} (hdigits : digits.all Char.isDigit = true) {mark : Char}
    (mem : mark = 'e' ∨ mark = 'E') : shift.word (digits ++ [mark]) = digits ++ [mark] := by
  by_cases hne : digits = []
  · subst hne
    apply word_of_read?
    rcases mem with rfl | rfl <;> decide
  · exact word_of_digit hne hdigits _

/-- Digits with an exponent stay as they are, unless the exponent on its own is written like a
reference. -/
lemma move_digits_exponent {digits exponent : List Char} (hdigits : digits.all Char.isDigit = true)
    (h : IsExponent exponent) : shift.move [] (digits ++ exponent) = digits ++ exponent ∨
      digits = [] ∧ ∃ a, Address.read? exponent = some a ∧
        shift.move [] exponent = shift.word exponent := by
  have hdigits' := all_isWordChar_of_digits hdigits
  cases h with
  | none =>
    left
    rw [List.append_nil, move_all_word hdigits', word_digits hdigits]
  | @some mark sign ds mem optional ne all =>
    have hmark : Text.isWordChar mark = true := by rcases mem with rfl | rfl <;> decide
    have hds : shift.move [] ds = ds := by
      rw [move_all_word (all_isWordChar_of_digits all), word_digits all]
    have hsigned : ∀ c, Text.isWordChar c = false → c ≠ '"' → c ≠ '(' →
        shift.move [] (digits ++ mark :: c :: ds) = digits ++ mark :: c :: ds := by
      intro c hc hquote hparen
      have hall : (digits ++ [mark]).all Text.isWordChar = true := by simp [hdigits', hmark]
      have hassoc : digits ++ mark :: c :: ds = (digits ++ [mark]) ++ c :: ds := by simp
      rw [hassoc, move_append_word hall, List.nil_append, move_other _ hc hquote, if_neg hparen,
        word_digits_mark hdigits mem, hds]
    rcases optional with rfl | rfl | rfl
    · have hall : (mark :: ds).all Text.isWordChar = true := by
        rw [List.all_cons, hmark, all_isWordChar_of_digits all]
        rfl
      by_cases hne : digits = []
      · subst hne
        change shift.move [] (mark :: ds) = mark :: ds ∨ _
        cases hread : Address.read? (mark :: ds) with
        | none =>
          left
          rw [move_all_word hall, word_of_read? hread]
        | some a => exact .inr ⟨rfl, a, hread, move_all_word hall⟩
      · left
        rw [move_all_word (by simpa [hdigits'] using hall), word_of_digit hne hdigits]
    · exact .inl (hsigned '+' (by decide) (by decide) (by decide))
    · exact .inl (hsigned '-' (by decide) (by decide) (by decide))

/-- A number stays as it is, unless an exponent directly behind its point is written like a
reference. -/
lemma move_numeral {w : List Char} (h : IsNumeral w) (hw : ∀ c ∈ w.head?, c.isUpper = false) :
    shift.move [] w = w ∨ ∃ digits exponent a, w = digits ++ '.' :: exponent ∧
      digits.all Char.isDigit = true ∧ IsExponent exponent ∧ Address.read? exponent = some a ∧
        shift.move [] w = digits ++ '.' :: shift.word exponent := by
  cases h with
  | @whole digits exponent hdigits hexponent =>
    left
    rcases @move_digits_exponent shift _ _ hdigits hexponent with hmove | ⟨rfl, a, hread, -⟩
    · exact hmove
    · obtain ⟨letters, ds, rfl, hne, hletters, -⟩ := Address.shape_of_read? hread
      obtain ⟨c, cs, rfl⟩ := List.exists_cons_of_ne_nil hne
      rw [List.all_cons, Bool.and_eq_true, hw c rfl] at hletters
      cases hletters.1
  | @fraction digits decimals exponent hdigits hdecimals hexponent =>
    have hsplit : shift.move [] (digits ++ '.' :: (decimals ++ exponent)) =
        digits ++ '.' :: shift.move [] (decimals ++ exponent) := by
      rw [move_append_word (all_isWordChar_of_digits hdigits), List.nil_append,
        move_other _ (by decide) (by decide), if_neg (by decide), word_digits hdigits]
    rw [hsplit]
    rcases @move_digits_exponent shift _ _ hdecimals hexponent with hmove | ⟨rfl, a, hread, hmove⟩
    · left
      rw [hmove]
    · right
      refine ⟨digits, exponent, a, rfl, hdigits, hexponent, hread, ?_⟩
      rw [List.nil_append, hmove]

end Shift

end Formula

end Spreadsheet
