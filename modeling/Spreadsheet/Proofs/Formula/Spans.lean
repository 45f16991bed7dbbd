import Mathlib.Data.List.Chain
import Spreadsheet.Proofs.Formula.Lexemes

/-!
# Tokens and the characters between them

The splitting of a text loses and invents nothing.  The main result, `tokens_spans`, says so by
slices of the text: from the offset of a token to the next one stand its lexeme, which alone is
split into that token, and white space, and in front of the first token stands white space only.
Where a text cannot be split, what precedes the offset of the fault can.

Both halves need that a lexeme stays one when the characters behind it are cut off
(`Leads.of_append`), although the splitting looks ahead.  For numbers, which may end in front of an
exponent that turns out to be none, this holds because more characters only ever make the number at
their start longer (`numberPart_isPrefix`).
-/

namespace Spreadsheet

namespace Formula

open Token

/-! ## Numbers in front of less text -/

/-- What is taken from the front does not get shorter when more characters follow. -/
lemma takeWhile_prefix_append (p : Char → Bool) (cs t : List Char) :
    cs.takeWhile p <+: (cs ++ t).takeWhile p := by
  rw [List.takeWhile_append]
  split
  · exact (List.takeWhile_prefix p).trans (List.prefix_append _ _)
  · exact List.prefix_rfl

/-- An exponent does not get shorter when more characters follow. -/
lemma exponentPart_isPrefix (cs t : List Char) : exponentPart cs <+: exponentPart (cs ++ t) := by
  fun_cases exponentPart cs with
  | case1 mark d cs h =>
    simp only [List.cons_append, exponentPart, if_pos h]
    exact (List.prefix_append_right_inj [mark, '+', d]).mpr (takeWhile_prefix_append _ cs t)
  | case3 mark d cs h =>
    simp only [List.cons_append, exponentPart, if_pos h]
    exact (List.prefix_append_right_inj [mark, '-', d]).mpr (takeWhile_prefix_append _ cs t)
  | case5 mark d cs _ _ h =>
    have hplus : d ≠ '+' := by
      rintro rfl
      exact absurd h.2 (by decide)
    have hminus : d ≠ '-' := by
      rintro rfl
      exact absurd h.2 (by decide)
    have hexponent : exponentPart (mark :: d :: (cs ++ t)) =
        mark :: d :: (cs ++ t).takeWhile Char.isDigit := by
      simp [exponentPart, h, hplus, hminus]
    rw [List.cons_append, List.cons_append, hexponent]
    exact (List.prefix_append_right_inj [mark, d]).mpr (takeWhile_prefix_append _ cs t)
  | case2 => exact List.nil_prefix
  | case4 => exact List.nil_prefix
  | case6 => exact List.nil_prefix
  | case7 => exact List.nil_prefix

/-- The digits at the start of the characters and an exponent behind them. -/
def digitsPart (cs : List Char) : List Char :=
  cs.takeWhile Char.isDigit ++ exponentPart (cs.dropWhile Char.isDigit)

/-- Digits are taken one by one, and then the exponent. -/
lemma digitsPart_cons (c : Char) (cs : List Char) : digitsPart (c :: cs) =
    if c.isDigit then c :: digitsPart cs else exponentPart (c :: cs) := by
  unfold digitsPart
  cases hc : c.isDigit <;> simp [hc]

/-- A number goes on while there are digits, and then with a point or an exponent. -/
lemma numberPart_cons (c : Char) (cs : List Char) : numberPart (c :: cs) =
    if c.isDigit then c :: numberPart cs
    else if c = '.' then '.' :: digitsPart cs else exponentPart (c :: cs) := by
  cases hc : c.isDigit with
  | true =>
    simp only [numberPart, List.takeWhile_cons_of_pos hc, List.dropWhile_cons_of_pos hc, if_true]
    split <;> simp
  | false =>
    have hc' : ¬c.isDigit = true := by simp [hc]
    simp only [numberPart, List.takeWhile_cons_of_neg hc', List.dropWhile_cons_of_neg hc',
      List.nil_append, Bool.false_eq_true, if_false]
    split
    case h_1 rest heq =>
      obtain ⟨rfl, rfl⟩ := List.cons.inj heq
      rw [if_pos rfl, digitsPart, List.cons_append]
    case h_2 hne =>
      have hpoint : c ≠ '.' := by
        rintro rfl
        exact hne cs rfl
      rw [if_neg hpoint]

/-- Digits and their exponent do not get shorter when more characters follow. -/
lemma digitsPart_isPrefix (cs t : List Char) : digitsPart cs <+: digitsPart (cs ++ t) := by
  induction cs with
  | nil => exact List.nil_prefix
  | cons c cs ih =>
    rw [List.cons_append, digitsPart_cons, digitsPart_cons]
    split
    · exact (List.prefix_cons_inj c).mpr ih
    · exact exponentPart_isPrefix (c :: cs) t

/-- Characters behind others do not make the number at the start of those shorter. -/
lemma numberPart_isPrefix (cs t : List Char) : numberPart cs <+: numberPart (cs ++ t) := by
  induction cs with
  | nil => exact List.nil_prefix
  | cons c cs ih =>
    rw [List.cons_append, numberPart_cons, numberPart_cons]
    split
    · exact (List.prefix_cons_inj c).mpr ih
    · split
      · exact (List.prefix_cons_inj '.').mpr (digitsPart_isPrefix cs t)
      · exact exponentPart_isPrefix (c :: cs) t

/-- What is a number in front of others is one by itself. -/
lemma numberPart_eq_self {w rest : List Char} (h : numberPart (w ++ rest) = w) :
    numberPart w = w := by
  have hnumeral : IsNumeral w := by
    rw [← h]
    exact (numberPart_spec _).1
  have hself := @numberPart_append w [] hnumeral (by simp) (by simp)
  rwa [List.append_nil] at hself

/-- A number stays one when characters far behind it are cut off. -/
lemma numberPart_of_append {w rest more : List Char} (h : numberPart (w ++ (rest ++ more)) = w) :
    numberPart (w ++ rest) = w := by
  have hle := numberPart_isPrefix w rest
  have hge := numberPart_isPrefix (w ++ rest) more
  rw [numberPart_eq_self h] at hle
  rw [List.append_assoc, h] at hge
  exact hge.eq_of_length_le hle.length_le

/-! ## Lexemes in front of less text -/

/-- A mark of one character is one at the end of the text too. -/
lemma mark?_nil {c : Char} {cs : List Char} {t : Token} (h : mark? c cs = some (t, 0)) :
    mark? c [] = some (t, 0) := by
  unfold mark? at h
  split at h <;> cases h <;> rfl

/-- A mark is told by its first two characters, whatever stands behind them. -/
lemma mark?_cons (c d : Char) (cs : List Char) : mark? c (d :: cs) = mark? c [d] := by
  -- the second one matters only where it makes a mark of two characters
  by_cases hequal : d = '='
  · subst hequal
    unfold mark?
    split <;> first | rfl | simp_all
  · by_cases hgreater : d = '>'
    · subst hgreater
      unfold mark?
      split <;> first | rfl | simp_all
    · unfold mark?
      split <;> first | rfl | simp_all

/-- A mark stays one when characters far behind it are cut off. -/
lemma mark?_of_append {c : Char} {cs rest more : List Char} {t : Token}
    (h : mark? c (cs ++ (rest ++ more)) = some (t, cs.length)) :
    mark? c (cs ++ rest) = some (t, cs.length) := by
  rw [← List.append_assoc] at h
  cases hcs : cs ++ rest with
  | nil =>
    obtain ⟨rfl, rfl⟩ := List.append_eq_nil_iff.mp hcs
    exact mark?_nil h
  | cons d ds =>
    rw [hcs, List.cons_append, mark?_cons] at h
    rw [mark?_cons, h]

/-- What starts a number with a value starts it without the text behind it. A point alone would not.
-/
lemma startsNumber_of_append {c : Char} {cs rest more : List Char} {n : Number}
    (h : startsNumber c (cs ++ (rest ++ more)) = true) (value : numeral? (c :: cs) = some n) :
    startsNumber c (cs ++ rest) = true := by
  cases cs with
  | cons d ds => exact h
  | nil =>
    have hpoint : c ≠ '.' := by
      rintro rfl
      exact absurd value (by simp [show numeral? ['.'] = none by decide])
    rcases isDigit_of_startsNumber h with hdigit | rfl
    · simp [startsNumber, hdigit]
    · exact absurd rfl hpoint

/-- A lexeme stays one when characters behind it are cut off. -/
lemma Leads.of_append {l : Lexeme} {rest more : List Char} (h : Leads l (rest ++ more)) :
    Leads l rest := by
  have hhead : ∀ c ∈ rest.head?, c ∈ (rest ++ more).head? := by
    intro c hc
    rw [List.head?_append_of_ne_nil _ (by rintro rfl; cases hc)]
    exact hc
  cases h with
  | number starts part value finite =>
    exact .number (startsNumber_of_append starts value) (numberPart_of_append part) value finite
  | word start all stop => exact .word start all fun d hd => stop d (hhead d hd)
  | text quoted stop part =>
    have hstop : ∀ d ∈ rest.head?, d ≠ '"' := fun d hd => stop d (hhead d hd)
    exact .text quoted hstop ((textPart_congr quoted hstop stop _ _).trans part)
  | mark found => exact .mark (mark?_of_append found)

/-- No lexeme writes the end of the text, which is a token without characters. -/
lemma Leads.token_ne_endOfText {l : Lexeme} {rest : List Char} (h : Leads l rest) :
    l.token ≠ .endOfText := by
  cases h with
  | number => exact Token.noConfusion
  | @word c cs =>
    simp only [ofWord]
    split <;> exact Token.noConfusion
  | text => exact Token.noConfusion
  | mark found =>
    rintro rfl
    unfold mark? at found
    split at found <;> cases found

/-- A lexeme on its own is split into its token and the end of the text. -/
lemma Leads.tokens {l : Lexeme} {rest : List Char} (h : Leads l rest) :
    tokens (String.ofList l.chars) = .ok [⟨l.token, 0⟩, ⟨.endOfText, l.chars.length⟩] := by
  obtain ⟨token, chars⟩ := l
  obtain ⟨c, cs, rfl, hblank⟩ := h.exists_cons
  have halone := (@Leads.of_append _ [] rest h).first
  rw [List.append_nil] at halone
  rw [Formula.tokens, String.toList_ofList, tokensAfter, hblank, halone]
  simp [tokensAfter, Nat.add_comm]

/-! ## The characters of each token -/

/-- From one token to the next stand its lexeme, which alone is split into it, and white space. -/
structure IsSpan (cs : List Char) (p q : Placed) : Prop where
  lt : p.offset < q.offset
  exists_lexeme : ∃ lexeme white : List Char,
    (cs.drop p.offset).take (q.offset - p.offset) = lexeme ++ white ∧
    (∃ c rest, lexeme = c :: rest ∧ Text.isBlankChar c = false) ∧
    white.all Text.isBlankChar = true ∧
    tokens (String.ofList lexeme) = .ok [⟨p.token, 0⟩, ⟨.endOfText, lexeme.length⟩]

/-- The tokens split the characters from the offset on. -/
structure Splits (cs : List Char) (offset : Nat) (ps : List Placed) : Prop where
  /-- White space stands in front of the first token. -/
  first : ∀ p ∈ ps.head?, offset ≤ p.offset ∧
    ((cs.drop offset).take (p.offset - offset)).all Text.isBlankChar = true
  /-- The end of the text is marked once, behind the other tokens. -/
  last : ∃ inner, ps = inner ++ [⟨.endOfText, cs.length⟩] ∧ ∀ p ∈ inner, p.token ≠ .endOfText
  between : ps.IsChain (IsSpan cs)

/-- Behind the last character there is the mark of the end and nothing else. -/
lemma Splits.end (cs : List Char) : Splits cs cs.length [⟨.endOfText, cs.length⟩] where
  first := by simp
  last := ⟨[], rfl, by simp⟩
  between := .singleton _

/-- White space in front of the first token is passed over. -/
lemma Splits.blank {c : Char} {cs rest : List Char} {offset : Nat} {ps : List Placed}
    (h : Splits cs (offset + 1) ps) (hcs : cs.drop offset = c :: rest)
    (white : Text.isBlankChar c = true) : Splits cs offset ps where
  first := by
    intro p hp
    obtain ⟨hle, hwhite⟩ := h.first p hp
    have hcount : p.offset - offset = p.offset - (offset + 1) + 1 := by omega
    have hrest : cs.drop (offset + 1) = rest := by
      rw [← List.drop_drop, hcs, List.drop_one, List.tail_cons]
    rw [hrest] at hwhite
    refine ⟨by omega, ?_⟩
    rw [hcs, hcount, List.take_succ_cons, List.all_cons, white, hwhite, Bool.and_self]
  last := h.last
  between := h.between

/-- A lexeme in front of tokens adds its own token, which spans the lexeme and the white space
behind it. -/
lemma Splits.lexeme {l : Lexeme} {cs rest : List Char} {offset : Nat} {ps : List Placed}
    (h : Splits cs (offset + l.chars.length) ps) (hcs : cs.drop offset = l.chars ++ rest)
    (leads : Leads l rest) : Splits cs offset (⟨l.token, offset⟩ :: ps) where
  first := by
    rintro p ⟨⟩
    simp
  last := by
    obtain ⟨inner, rfl, hinner⟩ := h.last
    refine ⟨⟨l.token, offset⟩ :: inner, rfl, ?_⟩
    rintro p (_ | ⟨_, hp⟩)
    · exact leads.token_ne_endOfText
    · exact hinner p hp
  between := by
    refine List.isChain_cons.mpr ⟨?_, h.between⟩
    intro q hq
    obtain ⟨hle, hwhite⟩ := h.first q hq
    have hrest : cs.drop (offset + l.chars.length) = rest := by
      rw [← List.drop_drop, hcs, List.drop_left]
    obtain ⟨c, part, hchars, hblank⟩ := leads.exists_cons
    have hpos : 0 < l.chars.length := by simp [hchars]
    refine ⟨by simp only; omega, l.chars, _, ?_, ⟨c, part, hchars, hblank⟩, hwhite, leads.tokens⟩
    have hcount : q.offset - offset = l.chars.length + (q.offset - (offset + l.chars.length)) := by
      omega
    rw [hcs, hcount, List.take_length_add_append, hrest]

/-- What is found after other tokens splits the characters that were left. -/
lemma Splits.of_tokensAfter {acc found : List Placed} {offset : Nat} {cs text : List Char}
    (h : tokensAfter acc offset cs = .ok found) (hcs : text.drop offset = cs)
    (hoffset : offset ≤ text.length) : ∃ ps, found = acc.reverse ++ ps ∧ Splits text offset ps := by
  fun_induction tokensAfter acc offset cs with
  | case1 acc offset =>
    cases h
    obtain rfl : offset = text.length := le_antisymm hoffset (List.drop_eq_nil_iff.mp hcs)
    exact ⟨_, List.reverse_cons, .end text⟩
  | case2 acc offset c rest hblank ih =>
    have hlength := congrArg List.length hcs
    simp only [List.length_drop, List.length_cons] at hlength
    have hrest : text.drop (offset + 1) = rest := by
      rw [← List.drop_drop, hcs, List.drop_one, List.tail_cons]
    obtain ⟨ps, rfl, hps⟩ := ih h hrest (by omega)
    exact ⟨ps, rfl, hps.blank hcs hblank⟩
  | case3 => cases h
  | case4 acc offset c rest hblank token more hfirst ih =>
    obtain ⟨part, rest, rfl, rfl, hleads⟩ := Leads.of_first hfirst
    have hlength := congrArg List.length hcs
    simp only [List.length_drop, List.length_cons, List.length_append] at hlength
    have hnext : offset + 1 + part.length = offset + (c :: part).length := by
      simp only [List.length_cons]
      omega
    have hrest : text.drop (offset + 1 + part.length) = (part ++ rest).drop part.length := by
      rw [hnext, ← List.drop_drop, hcs, ← List.cons_append, List.drop_left, List.drop_left]
    obtain ⟨ps, rfl, hps⟩ := ih h hrest (by omega)
    rw [hnext] at hps
    exact ⟨⟨token, offset⟩ :: ps, by simp, Splits.lexeme hps hcs hleads⟩

/-- Tokens stand at increasing offsets, so that no two of them start at one place. -/
lemma Splits.pairwise_offset {cs : List Char} {offset : Nat} {ps : List Placed}
    (h : Splits cs offset ps) : ps.Pairwise fun p q => p.offset < q.offset := by
  have hoffsets : (ps.map Placed.offset).IsChain (· < ·) :=
    List.isChain_map_of_isChain Placed.offset (fun _ _ => IsSpan.lt) h.between
  exact List.pairwise_map.mp (List.isChain_iff_pairwise.mp hoffsets)

/-- In front of another token no token marks the end of the text. -/
lemma Splits.token_ne_endOfText {cs : List Char} {offset : Nat} {before after : List Placed}
    {t : Placed} (h : Splits cs offset (before ++ t :: after)) :
    ∀ p ∈ before, p.token ≠ .endOfText := by
  obtain ⟨inner, hinner, hends⟩ := h.last
  have hdrop := congrArg List.dropLast hinner
  rw [List.dropLast_append_of_ne_nil (List.cons_ne_nil t after), List.dropLast_concat] at hdrop
  intro p hp
  rw [← hdrop] at hends
  exact hends p (List.mem_append_left _ hp)

/-! ## Faults -/

/-- The characters in front of a fault split, into the lexemes that are found of all characters. -/
lemma lexes_take_of_tokensAfter {acc : List Placed} {offset k : Nat} {fault : LexicalFault}
    {cs : List Char} (h : tokensAfter acc offset cs = .error (k, fault)) :
    ∃ n, k = offset + n ∧ n < cs.length ∧ Lexes (cs.take n) (lexemes cs) := by
  fun_induction tokensAfter acc offset cs with
  | case1 => cases h
  | case2 acc offset c rest hblank ih =>
    obtain ⟨n, rfl, hn, hls⟩ := ih h
    rw [lexemes, if_pos hblank]
    exact ⟨n + 1, by omega, Nat.succ_lt_succ hn, .blank hblank hls⟩
  | case3 acc offset c rest hblank fault' hfirst =>
    cases h
    rw [lexemes, if_neg hblank, hfirst]
    exact ⟨0, rfl, Nat.succ_pos _, .nil⟩
  | case4 acc offset c rest hblank token more hfirst ih =>
    obtain ⟨part, rest, rfl, rfl, hleads⟩ := Leads.of_first hfirst
    rw [List.drop_left] at h ih
    obtain ⟨n, rfl, hn, hls⟩ := ih h
    refine ⟨(c :: part).length + n, ?_, ?_, ?_⟩
    · simp only [List.length_cons]
      omega
    · simp only [List.length_cons, List.length_append]
      omega
    · have hlexemes : lexemes (c :: part ++ rest) = ⟨token, c :: part⟩ :: lexemes rest :=
        hleads.lexemes_append
      rw [← List.cons_append, List.take_length_add_append, hlexemes]
      rw [← List.take_append_drop n rest] at hleads
      exact .lexeme hleads.of_append hls

/-! ## The splitting of a text -/

/-- A text splits into its tokens without loss: they stand at increasing offsets, the end of the
text last and at its length, with white space in front, and each one's characters up to the next are
its lexeme and white space.  What precedes the offset of a fault splits. -/
theorem tokens_spans (s : String) :
    (∀ found, tokens s = .ok found →
      (∃ inner, found = inner ++ [⟨.endOfText, s.length⟩] ∧ ∀ p ∈ inner, p.token ≠ .endOfText) ∧
      found.Pairwise (fun p q => p.offset < q.offset) ∧
      (∀ p ∈ found.head?, (s.toList.take p.offset).all Text.isBlankChar = true) ∧
      found.IsChain (IsSpan s.toList)) ∧
    ∀ k fault, tokens s = .error (k, fault) →
      k < s.length ∧ ∃ found, tokens (String.ofList (s.toList.take k)) = .ok found := by
  constructor
  · intro found hfound
    obtain ⟨_, rfl, hsplits⟩ :=
      @Splits.of_tokensAfter [] found 0 s.toList s.toList hfound rfl (Nat.zero_le _)
    have hoffsets : (found.map Placed.offset).IsChain (· < ·) :=
      List.isChain_map_of_isChain Placed.offset (fun _ _ => IsSpan.lt) hsplits.between
    exact ⟨hsplits.last, List.pairwise_map.mp (List.isChain_iff_pairwise.mp hoffsets),
      fun p hp => (hsplits.first p hp).2, hsplits.between⟩
  · intro k fault hfault
    obtain ⟨n, rfl, hn, hls⟩ := lexes_take_of_tokensAfter hfault
    obtain ⟨found, hfound, -⟩ := hls.tokensAfter [] 0
    rw [Nat.zero_add, tokens, String.toList_ofList]
    exact ⟨hn, found, hfound⟩

/-- An exponent mark without digits starts a name, and the text left open in `1e+ "a` spoils what
follows its first four characters. -/
theorem tokens_spans_unfinishedExponent :
    let s := " 2e+.5<>A1 \"a\"\"b\" "
    let a1 : Address := ⟨⟨1, by decide, by decide⟩, ⟨1, by decide, by decide⟩⟩
    let found : List Placed :=
      [⟨.number (.ofDecimal false ⟨2, 0⟩), 1⟩, ⟨.name "e", 2⟩, ⟨.operator .add, 3⟩,
        ⟨.number (.ofDecimal false ⟨5, -1⟩), 4⟩, ⟨.operator (.compare .notEqual), 6⟩,
        ⟨.cell a1, 8⟩, ⟨.text "a\"b", 11⟩, ⟨.endOfText, 18⟩]
    let unfinished := "1e+ \"a"
    tokens s = .ok found ∧ found.IsChain (IsSpan s.toList) ∧
      tokens unfinished = .error (4, .openText) ∧
      ∃ found, tokens (String.ofList (unfinished.toList.take 4)) = .ok found := by
  intro s a1 found unfinished
  have hfound : tokens s = .ok found := by decide +kernel
  have hfault : tokens unfinished = .error (4, .openText) := by decide +kernel
  obtain ⟨-, -, -, hspans⟩ := (tokens_spans s).1 found hfound
  obtain ⟨-, hprefix⟩ := (tokens_spans unfinished).2 4 .openText hfault
  exact ⟨hfound, hspans, hfault, hprefix⟩

end Formula

end Spreadsheet
