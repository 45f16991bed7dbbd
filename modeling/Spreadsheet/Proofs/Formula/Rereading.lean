import Spreadsheet.Proofs.Binary.ReadBack
import Spreadsheet.Proofs.Formula.Printing
import Spreadsheet.Proofs.Formula.Shifting

/-!
# Printed trees are read back

A tree is printed as the characters of its tokens, in a row or with white space around any of them.
The main result is that reading the text gives the tree again, whatever the white space, for every
tree whose numbers have no sign and whose calls have names that are no addresses, and that the text
has no needless parentheses (`Expr.ofText_of_spells`).

The tokens derive the tree, so what is left to show is that the text splits into them again.  Each
token is a lexeme in front of the characters that follow it (`Lexes.leads`), because its neighbour
in the phrase does not run into it: a mark follows an operand, the start of an operand follows an
operator, and a parenthesis follows a name.
-/

namespace Spreadsheet

namespace Formula

open Token

/-! ## Characters of tokens -/

/-- The content of a quoted text, every quote in it written twice. -/
def doubled (content : List Char) : List Char :=
  content.flatMap fun c => if c = '"' then ['"', '"'] else [c]

/-- The characters that write a token. -/
def Token.chars : Token → List Char
  | .number value => value.display.toList
  | .text content => '"' :: (doubled content.toList ++ ['"'])
  | .cell a => a.text.toList
  | .name word => word.toList
  | .operator op => op.symbol.toList
  | .openParen => ['(']
  | .closeParen => [')']
  | .comma => [',']
  | .colon => [':']
  | .endOfText => []

/-- The characters write the tokens, with white space anywhere around them or none. -/
inductive Spells : List Token → List Char → Prop where
  | nil : Spells [] []
  | blank {c : Char} {ts : List Token} {cs : List Char} (white : Text.isBlankChar c = true)
    (others : Spells ts cs) : Spells ts (c :: cs)
  | token {t : Token} {ts : List Token} {cs : List Char} (others : Spells ts cs) :
    Spells (t :: ts) (t.chars ++ cs)

/-- Without white space the characters of the tokens follow one another. -/
lemma spells_flatMap (ts : List Token) : Spells ts (ts.flatMap Token.chars) := by
  induction ts with
  | nil => exact .nil
  | cons t ts ih => exact ih.token

/-! ## Printable trees -/

/-- The text is an identifier and no address. -/
def IsName (name : String) : Prop :=
  (∃ c cs, name.toList = c :: cs ∧ isNameStart c = true ∧ cs.all isNameChar = true) ∧
    Address.ofText? name = none

/-- The number is finite and has no sign. -/
def IsUnsigned (value : Number) : Prop :=
  ∃ rank, value = .finite false rank

mutual

/-- The numbers of the tree are finite and have no sign, and its calls have names. -/
def Expr.Printable : Expr → Prop
  | .number value => IsUnsigned value
  | .text _ | .cell _ | .range _ => True
  | .unary _ e => e.Printable
  | .binary _ l r => l.Printable ∧ r.Printable
  | .call f args => IsName f ∧ PrintableAll args

/-- All trees of the list are printable. -/
def PrintableAll : List Expr → Prop
  | [] => True
  | e :: es => e.Printable ∧ PrintableAll es

end

/-- The token is read back from its characters. -/
def Token.Printable : Token → Prop
  | .number value => IsUnsigned value
  | .name word => IsName word
  | .endOfText => False
  | _ => True

mutual

/-- A printable tree has printable tokens. -/
lemma Expr.printable_phrase (level : Nat) :
    ∀ e : Expr, e.Printable → ∀ t ∈ e.phrase level, t.Printable
  | .number value, h => by
    rintro t ht
    obtain rfl := List.mem_singleton.mp ht
    exact h
  | .text _, _ | .cell _, _ | .range _, _ => by simp [Expr.phrase, Token.Printable]
  | .unary op e, h => by
    have hoperand := e.printable_phrase 4 h
    exact List.forall_mem_cons.mpr ⟨trivial, hoperand⟩
  | .binary op l r, h => by
    have hleft := l.printable_phrase op.level h.1
    have hright := r.printable_phrase (op.level + 1) h.2
    have hphrase : ∀ t ∈ l.phrase op.level ++ .operator op :: r.phrase (op.level + 1),
        t.Printable :=
      List.forall_mem_append.mpr ⟨hleft, List.forall_mem_cons.mpr ⟨trivial, hright⟩⟩
    unfold Expr.phrase enclosed
    split
    case isTrue hlooser =>
      have hclosed : ∀ t ∈ [Token.closeParen], t.Printable := by simp [Token.Printable]
      exact List.forall_mem_cons.mpr ⟨trivial, List.forall_mem_append.mpr ⟨hphrase, hclosed⟩⟩
    case isFalse hlooser => exact hphrase
  | .call f [], h => by
    have hname := h.1
    simpa [Expr.phrase, Token.Printable] using hname
  | .call f (e :: es), h => by
    have hargument := e.printable_phrase 0 h.2.1
    have hfurther := printable_furtherTokens es h.2.2
    have hclosed : ∀ t ∈ [Token.closeParen], t.Printable := by simp [Token.Printable]
    have harguments : ∀ t ∈ e.phrase 0 ++ furtherTokens es, t.Printable :=
      List.forall_mem_append.mpr ⟨hargument, hfurther⟩
    exact List.forall_mem_cons.mpr ⟨h.1, List.forall_mem_cons.mpr
      ⟨trivial, List.forall_mem_append.mpr ⟨harguments, hclosed⟩⟩⟩

/-- The tokens of printable arguments and the commas between them are printable. -/
lemma printable_furtherTokens :
    ∀ es : List Expr, PrintableAll es → ∀ t ∈ furtherTokens es, t.Printable
  | [], _ => by simp [furtherTokens]
  | e :: es, h => by
    have hargument := e.printable_phrase 0 h.1
    have hfurther := printable_furtherTokens es h.2
    exact List.forall_mem_cons.mpr
      ⟨trivial, List.forall_mem_append.mpr ⟨hargument, hfurther⟩⟩

end

/-! ## Tokens as lexemes -/

/-- Characters that write a decimal have the form of a numeral: digits, perhaps decimals, perhaps an
exponent. -/
lemma isNumeral_of_read? {cs : List Char} {d : Decimal} (h : Decimal.read? cs = some d) :
    IsNumeral cs := by
  obtain ⟨whole, fraction, tail, hcs, hwhole, hfraction, -, htail⟩ :=
    Decimal.exists_parts_of_read? h
  have hexponent : IsExponent tail := by
    cases tail with
    | nil => exact .none
    | cons mark exponent =>
      obtain ⟨hmark, k, hk⟩ := htail mark exponent rfl
      exact isExponent_of_readExponent? hmark hk
  rcases hcs with ⟨rfl, -⟩ | rfl
  · exact .whole hwhole hexponent
  · exact .fraction hwhole hfraction hexponent

/-- Characters that write a decimal start a number for the reader of formulas too. -/
lemma startsNumber_of_read? {c : Char} {cs : List Char} {d : Decimal}
    (h : Decimal.read? (c :: cs) = some d) : startsNumber c cs = true := by
  obtain ⟨_, _, ⟨⟩, hdigit | ⟨rfl, e, he, hdigit⟩⟩ := Decimal.exists_cons_of_read? h
  · rw [startsNumber, hdigit, Bool.true_or]
  · rw [startsNumber, Option.mem_def.mp he, Option.any_some, hdigit]
    rfl

/-- Characters that name a number are a numeral: the reader of numbers takes nothing else. -/
lemma Names.isNumeral {w : List Char} {n : Number} (h : Names w n) : IsNumeral w := by
  obtain ⟨d, hd, -⟩ := Option.map_eq_some_iff.mp h.1
  exact isNumeral_of_read? hd

/-- The characters of a number are a lexeme in front of what keeps apart from it. -/
lemma Names.leads {w rest : List Char} {n : Number} (h : Names w n) (hrest : Closed rest) :
    Leads ⟨.number n, w⟩ rest := by
  obtain ⟨d, hd, -⟩ := Option.map_eq_some_iff.mp h.1
  obtain ⟨c, cs, rfl, -⟩ := Decimal.exists_cons_of_read? hd
  have hnil : Closed [] := fun c hc => nomatch hc
  have hstarts : startsNumber c (cs ++ []) = true := by
    rw [List.append_nil]
    exact startsNumber_of_read? hd
  exact leads_of_isNumeral h.isNumeral (startsNumber_congr hnil rest hstarts) hrest h

/-- A number in front of what keeps apart from it. -/
lemma leads_number {value : Number} {rest : List Char} (h : IsUnsigned value)
    (hrest : Closed rest) : Leads ⟨.number value, value.display.toList⟩ rest := by
  obtain ⟨rank, rfl⟩ := h
  obtain ⟨d, hwrites, hd⟩ := Binary.exists_writes_display rank
  have hvalue : numeral? (Binary.display (.finite false rank)).toList =
      some (.finite false rank) := by
    rw [numeral?, hwrites.read?, Option.map_some, hd]
  exact Names.leads ⟨hvalue, rfl⟩ hrest

/-- A text with its quotes doubled is what may stand between an opening and a closing quote. -/
lemma isQuoted_doubled (content : List Char) : IsQuoted (doubled content ++ ['"']) := by
  induction content with
  | nil => exact .close
  | cons c content ih =>
    unfold doubled
    rw [List.flatMap_cons]
    split
    case isTrue hc => exact .doubled ih
    case isFalse hc => exact .other hc ih

/-- A text with its quotes doubled is taken apart again. -/
lemma textPart_doubled {rest : List Char} (hrest : ∀ c ∈ rest.head?, c ≠ '"')
    (content taken : List Char) (n : Nat) :
    textPart taken n (doubled content ++ ['"'] ++ rest) =
      some (taken.reverse ++ content, n + (doubled content ++ ['"']).length) := by
  induction content generalizing taken n with
  | nil =>
    rw [List.append_nil]
    exact textPart_close hrest taken n
  | cons c content ih =>
    by_cases hc : c = '"'
    · subst hc
      have hcons : doubled ('"' :: content) = '"' :: '"' :: doubled content := rfl
      rw [hcons]
      simp only [List.cons_append]
      rw [textPart, ih]
      simp only [List.reverse_cons, List.append_assoc, List.singleton_append, List.length_cons,
        Option.some.injEq, Prod.mk.injEq, true_and]
      omega
    · have hcons : doubled (c :: content) = c :: doubled content := by
        simp [doubled, hc]
      rw [hcons]
      simp only [List.cons_append]
      rw [textPart_other hc, ih]
      simp only [List.reverse_cons, List.append_assoc, List.singleton_append, List.length_cons,
        Option.some.injEq, Prod.mk.injEq, true_and]
      omega

/-- A written text is a lexeme in front of what keeps apart from it, and its token is the text. -/
lemma leads_text (content : String) {rest : List Char} (hrest : Closed rest) :
    Leads ⟨.text content, '"' :: (doubled content.toList ++ ['"'])⟩ rest := by
  have hquote : ∀ c ∈ rest.head?, c ≠ '"' := fun c hc => (hrest c hc).2.2.1
  have hpart := textPart_doubled hquote content.toList [] 0
  rw [List.reverse_nil, List.nil_append, Nat.zero_add] at hpart
  have hleads := Leads.text (isQuoted_doubled content.toList) hquote hpart
  rwa [String.ofList_toList] at hleads

/-- A written reference is a lexeme in front of what keeps apart from it, and its token is the
reference. -/
lemma leads_cell (a : Address) {rest : List Char} (hrest : Closed rest) :
    Leads ⟨.cell a, a.text.toList⟩ rest := by
  have hcell : ofWord a.chars = .cell a := by
    rw [ofWord, Address.read?_chars]
  have hstop : ∀ d ∈ rest.head?, isNameChar d = false :=
    fun d hd => not_isNameChar_of_not_isWordChar (hrest d hd).1
  obtain ⟨c, cs, hchars, hc, hcs⟩ := exists_cons_chars a
  rw [Address.text, String.toList_ofList, ← hcell, hchars]
  exact .word hc hcs hstop

/-- A written name is a lexeme in front of anything that does not go on with it. -/
lemma leads_name {name : String} {rest : List Char} (h : IsName name)
    (hrest : ∀ d ∈ rest.head?, isNameChar d = false) : Leads ⟨.name name, name.toList⟩ rest := by
  obtain ⟨⟨c, cs, hname, hc, hcs⟩, haddress⟩ := h
  have hword : ofWord (c :: cs) = .name name := by
    rw [ofWord, ← hname]
    rw [Address.ofText?] at haddress
    rw [haddress, String.ofList_toList]
  rw [← hword, hname]
  exact .word hc hcs hrest

/-- A written operator is a lexeme in front of anything that would not make another comparison of
it. -/
lemma leads_operator (op : BinaryOp) {rest : List Char}
    (hrest : ∀ d ∈ rest.head?, d ≠ '=' ∧ d ≠ '>') :
    Leads ⟨.operator op, op.symbol.toList⟩ rest := by
  -- Only in front of one of these two characters is a comparison read as a longer one.
  have hmark : ∀ c, mark? c rest = mark? c [] := by
    intro c
    have heq : '=' ∉ rest.head? := fun h => (hrest _ h).1 rfl
    have hgt : '>' ∉ rest.head? := fun h => (hrest _ h).2 rfl
    rw [mark?_eq, if_neg heq, if_neg hgt]
  have hshort : ∀ c, mark? c [] = some (.operator op, 0) → Leads ⟨.operator op, [c]⟩ rest := by
    intro c hc
    exact .mark ((hmark c).trans hc)
  cases op with
  | compare test =>
    cases test with
    | equal => exact hshort '=' rfl
    | notEqual => exact @Leads.mark '<' ['>'] rest _ rfl
    | less => exact hshort '<' rfl
    | lessEqual => exact @Leads.mark '<' ['='] rest _ rfl
    | greater => exact hshort '>' rfl
    | greaterEqual => exact @Leads.mark '>' ['='] rest _ rfl
  | join => exact hshort '&' rfl
  | add => exact hshort '+' rfl
  | subtract => exact hshort '-' rfl
  | multiply => exact hshort '*' rfl
  | divide => exact hshort '/' rfl

/-! ## Splitting -/

/-- Of the marks that start a phrase none is a sign of a comparison. -/
lemma mark?_starts {c : Char} {cs : List Char} {t : Token} {more : Nat}
    (h : mark? c cs = some (t, more)) (ht : t.Starts) : c ≠ '=' ∧ c ≠ '>' := by
  unfold mark? at h
  split at h <;> cases h <;> simp_all [Token.Starts, BinaryOp.sign?]

/-- Nothing that starts a phrase makes a comparison in front of it longer. -/
lemma Lexes.head?_of_starts {rest : List Char} {ls : List Lexeme} (h : Lexes rest ls)
    (hstarts : ∀ t ∈ (ls.map Lexeme.token).head?, t.Starts) :
    ∀ d ∈ rest.head?, d ≠ '=' ∧ d ≠ '>' := by
  intro d hd
  have hclass : ∀ p : Char → Bool, p '=' = false → p '>' = false → p d = true →
      d ≠ '=' ∧ d ≠ '>' := by
    intro p heq hgt hp
    constructor
    · rintro rfl
      exact Bool.false_ne_true (heq.symm.trans hp)
    · rintro rfl
      exact Bool.false_ne_true (hgt.symm.trans hp)
  cases h with
  | nil => cases hd
  | blank white others =>
    cases hd
    exact hclass Text.isBlankChar (by decide) (by decide) white
  | @lexeme l _ _ leads others =>
    have hl : l.token.Starts := hstarts l.token rfl
    cases leads with
    | number starts =>
      cases hd
      rcases isDigit_of_startsNumber starts with hdigit | rfl
      · exact hclass Char.isDigit (by decide) (by decide) hdigit
      · decide
    | word start =>
      cases hd
      exact hclass isNameStart (by decide) (by decide) start
    | text =>
      cases hd
      decide
    | mark found =>
      cases hd
      exact mark?_starts found hl

/-- If an opening parenthesis is the next token, then no name runs on into what follows. -/
lemma Lexes.head?_of_openParen {rest : List Char} {ls : List Lexeme} (h : Lexes rest ls)
    (hparen : ∀ t ∈ (ls.map Lexeme.token).head?, t = .openParen) :
    ∀ d ∈ rest.head?, isNameChar d = false := by
  intro d hd
  have hword : Text.isWordChar d = false := by
    cases h with
    | nil => cases hd
    | blank white others =>
      cases hd
      exact Text.isWordChar_of_isBlankChar white
    | @lexeme l _ _ leads others =>
      have hl : l.token = .openParen := hparen l.token rfl
      cases leads with
      | number => cases hl
      | word =>
        dsimp only at hl
        unfold ofWord at hl
        split at hl <;> cases hl
      | text => cases hl
      | mark found =>
        cases hd
        exact (not_word_of_mem_markChars (mem_markChars found)).1
  exact not_isNameChar_of_not_isWordChar hword

/-- A printable token is a lexeme in front of what may follow it in a phrase. -/
lemma Lexes.leads {t : Token} {rest : List Char} {ls : List Lexeme} (h : Lexes rest ls)
    (hprintable : t.Printable) (hadjacent : Adjacent (t :: ls.map Lexeme.token))
    (hchain : (t :: ls.map Lexeme.token).IsChain Precedes) : Leads ⟨t, t.chars⟩ rest := by
  have hnext := (List.isChain_cons.mp hchain).1
  cases t with
  | number value => exact leads_number hprintable (h.closed hadjacent trivial)
  | text content => exact leads_text content (h.closed hadjacent trivial)
  | cell a => exact leads_cell a (h.closed hadjacent trivial)
  | name word => exact leads_name hprintable (h.head?_of_openParen hnext)
  | operator op => exact leads_operator op (h.head?_of_starts hnext)
  | openParen => exact @Leads.mark '(' [] rest _ rfl
  | closeParen => exact @Leads.mark ')' [] rest _ rfl
  | comma => exact @Leads.mark ',' [] rest _ rfl
  | colon => exact @Leads.mark ':' [] rest _ rfl
  | endOfText => exact absurd hprintable id

/-- The characters of the tokens of a phrase split into these tokens. -/
lemma Spells.lexes {ts : List Token} {cs : List Char} (h : Spells ts cs)
    (hprintable : ∀ t ∈ ts, t.Printable) (hadjacent : Adjacent ts)
    (hchain : ts.IsChain Precedes) : ∃ ls, Lexes cs ls ∧ ls.map Lexeme.token = ts := by
  induction h with
  | nil => exact ⟨[], .nil, rfl⟩
  | blank white others ih =>
    obtain ⟨ls, hls, htokens⟩ := ih hprintable hadjacent hchain
    exact ⟨ls, .blank white hls, htokens⟩
  | @token t ts cs others ih =>
    rw [List.forall_mem_cons] at hprintable
    obtain ⟨ls, hls, rfl⟩ := ih hprintable.2 hadjacent.tail hchain.tail
    exact ⟨⟨t, t.chars⟩ :: ls, .lexeme (hls.leads hprintable.1 hadjacent hchain) hls, rfl⟩

/-- A printed tree is read as the tree, with any white space between its tokens, when calls may be
nested and the limits leave room for the parentheses, signs and calls in the text.  No tokens with
this tree are fewer or nested less, so that none of the printed parentheses is needless. -/
theorem Expr.ofText_of_spells {limits : Limits} {e : Expr} (hprintable : e.Printable)
    (hdepth : e.nesting 0 ≤ limits.maxDepth) (hcalls : limits.nestedCalls = true) :
    (∀ s : String, Spells (e.phrase 0) s.toList → Expr.ofText limits s = .ok e) ∧
      ∀ ts depth calls, Derives 0 ts e depth calls →
        (e.phrase 0).length ≤ ts.length ∧ e.nesting 0 ≤ depth := by
  refine ⟨?_, fun ts depth calls hder => hder.phrase_le⟩
  intro s hspells
  obtain ⟨calls, hder⟩ := e.derives_phrase (Nat.zero_le 4)
  have hlexes := hspells.lexes (e.printable_phrase 0 hprintable) hder.adjacent hder.regular.chain
  obtain ⟨found, hfound, hmap⟩ := tokens_eq_ok_iff.mpr hlexes
  have hfits : Fits limits 0 0 0 (e.phrase 0) e :=
    ⟨e.nesting 0, calls, hder, by rwa [Nat.zero_add], .inl hcalls⟩
  exact Expr.ofText_eq_ok_iff.mpr ⟨e.phrase 0, found, hfound, hmap, hfits⟩

/-- Parentheses, a sign, a range and a doubled quote, with one blank and no room to spare. -/
theorem Expr.ofText_of_spells_sum :
    let corner (side : Nat) (pos : 0 < side) (h : side ≤ gridSide) : Address :=
      ⟨⟨side, pos, h⟩, ⟨side, pos, h⟩⟩
    let e : Expr := .binary .multiply
      (.binary .subtract (.number Binary.one) (.cell (corner 1 (by decide) (by decide))))
      (.unary .minus (.call "SUM" [.range ⟨corner 2 (by decide) (by decide),
        corner 3 (by decide) (by decide)⟩, .text "a\"b"]))
    e.Printable ∧ e.nesting 0 = 2 ∧
      Expr.ofText { maxDepth := 2, nestedCalls := true } "(1 -A1)*-SUM(B2:C3,\"a\"\"b\")" =
        .ok e := by
  intro corner e
  have hprintable : e.Printable := by
    have hone : IsUnsigned Binary.one := ⟨⟨1023 * 4503599627370496, by decide⟩, by decide +kernel⟩
    have hsum : IsName "SUM" :=
      ⟨⟨'S', ['U', 'M'], by decide, by decide, by decide⟩, by decide +kernel⟩
    exact ⟨⟨hone, trivial⟩, hsum, trivial, trivial, trivial⟩
  have hspells : Spells (e.phrase 0) "(1 -A1)*-SUM(B2:C3,\"a\"\"b\")".toList := by
    let behind : List Token := [.operator .subtract, .cell (corner 1 (by decide) (by decide)),
      .closeParen, .operator .multiply, .operator .subtract, .name "SUM", .openParen,
      .cell (corner 2 (by decide) (by decide)), .colon, .cell (corner 3 (by decide) (by decide)),
      .comma, .text "a\"b", .closeParen]
    have hchars : "(1 -A1)*-SUM(B2:C3,\"a\"\"b\")".toList = Token.openParen.chars ++
        ((Token.number Binary.one).chars ++ ' ' :: behind.flatMap Token.chars) := by
      decide +kernel
    have hblank : Text.isBlankChar ' ' = true := by decide
    rw [hchars]
    exact .token (.token (.blank hblank (spells_flatMap behind)))
  have hnesting : e.nesting 0 = 2 := by decide
  refine ⟨hprintable, hnesting, ?_⟩
  exact (Expr.ofText_of_spells hprintable (Nat.le_of_eq hnesting) rfl).1 _ hspells

end Formula

end Spreadsheet
