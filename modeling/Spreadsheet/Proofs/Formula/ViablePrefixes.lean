import Spreadsheet.Proofs.Formula.Raising
import Spreadsheet.Proofs.Formula.Rereading
import Spreadsheet.Proofs.Formula.Spans

/-!
# The first impossible token

When a text is not read because a token is unexpected, this token is the first one at which no
expression can go on.  The main result is `Expr.unexpectedToken_first_impossible`: the characters in
front of the token start a text that is read, while no tokens that start like those of the text, up
to and including the unexpected one, are read under any limits.

Whatever the reader has taken can be completed.  One operand more where one is awaited, and a
closing parenthesis for each parenthesis and call that is open, make an expression
(`Opened.exists_closing`, `Consumed.exists_completion`).  White space keeps these tokens apart from
the text in front of them (`Lexes.append`).  Conversely an unexpected token stops the reader for
good, because it would stop it under higher limits too (`Progress.foldlM_persists`), and what is
read under some limits is read under higher ones.
-/

namespace Spreadsheet

namespace Formula

open Token

/-! ## A text in front of white space -/

section Append

variable {b : Char} {ds : List Char}

/-- White space ends a number: its characters are the same when white space follows them. -/
lemma numberPart_append_blank (hb : Text.isBlankChar b = true) (cs : List Char) :
    numberPart (cs ++ b :: ds) = numberPart cs := by
  obtain ⟨hnumeral, tail, htail⟩ := numberPart_spec (cs ++ b :: ds)
  have hmem : b ∉ numberPart (cs ++ b :: ds) := by
    intro hmem
    rw [not_isBlankChar_of_isDigit_or_mem (hnumeral.isDigit_or_mem b hmem)] at hb
    cases hb
  generalize hw : numberPart (cs ++ b :: ds) = w at htail hmem
  rcases List.append_eq_append_iff.mp htail with ⟨inner, rfl, hinner⟩ | ⟨rest, rfl, -⟩
  · cases inner with
    | nil =>
      rw [List.append_nil] at hw ⊢
      exact (numberPart_eq_self hw).symm
    | cons c inner =>
      obtain ⟨rfl, -⟩ := List.cons.inj hinner
      exact absurd (List.mem_append_right cs List.mem_cons_self) hmem
  · rw [List.append_assoc] at hw
    exact (numberPart_of_append hw).symm

/-- A number that starts here does so whatever follows. -/
lemma startsNumber_append {c : Char} {cs : List Char} (h : startsNumber c cs = true)
    (more : List Char) : startsNumber c (cs ++ more) = true := by
  cases cs with
  | nil =>
    have hdigit : c.isDigit = true := by simpa [startsNumber] using h
    simp [startsNumber, hdigit]
  | cons d cs => exact h

/-- White space behind the text makes no mark longer and lets no new one appear. -/
lemma mark?_append_blank (hb : Text.isBlankChar b = true) (c : Char) (cs : List Char) :
    mark? c (cs ++ b :: ds) = mark? c cs := by
  have hequal : b ≠ '=' := by
    rintro rfl
    exact absurd hb (by decide)
  have hgreater : b ≠ '>' := by
    rintro rfl
    exact absurd hb (by decide)
  rw [mark?_eq, mark?_eq c cs]
  cases cs with
  | nil => simp [hequal, hgreater]
  | cons d cs => simp

/-- What holds of the first character and of white space holds of the first one of both in a row. -/
lemma forall_head?_append {P : Char → Prop} {rest : List Char} (hrest : ∀ c ∈ rest.head?, P c)
    (hb : P b) : ∀ c ∈ (rest ++ b :: ds).head?, P c := by
  cases rest with
  | nil =>
    rintro _ ⟨⟩
    exact hb
  | cons d rest => exact hrest

/-- A lexeme stays one when white space and more text follow. -/
lemma Leads.append_blank {l : Lexeme} {rest : List Char} (h : Leads l rest)
    (hb : Text.isBlankChar b = true) : Leads l (rest ++ b :: ds) := by
  cases h with
  | number starts part value finite =>
    refine .number ?_ ?_ value finite
    · rw [← List.append_assoc]
      exact startsNumber_append starts _
    · rw [← List.append_assoc, numberPart_append_blank hb, part]
  | word start all stop =>
    have hname := not_isNameChar_of_not_isWordChar (Text.isWordChar_of_isBlankChar hb)
    exact .word start all (forall_head?_append stop hname)
  | text quoted stop part =>
    have hquote : b ≠ '"' := by
      rintro rfl
      exact absurd hb (by decide)
    have hstop : ∀ c ∈ (rest ++ b :: ds).head?, c ≠ '"' := forall_head?_append stop hquote
    exact .text quoted hstop ((textPart_congr quoted hstop stop _ _).trans part)
  | mark found =>
    refine .mark ?_
    rw [← List.append_assoc, mark?_append_blank hb, found]

/-- Texts with white space between them split apart. -/
lemma Lexes.append {cs : List Char} {ls ms : List Lexeme} (h : Lexes cs ls)
    (hb : Text.isBlankChar b = true) (hds : Lexes ds ms) : Lexes (cs ++ b :: ds) (ls ++ ms) := by
  induction h with
  | nil => exact .blank hb hds
  | blank white others ih => exact .blank white ih
  | lexeme leads others ih =>
    rw [List.append_assoc]
    exact .lexeme (leads.append_blank hb) ih

end Append

/-- Tokens that were found before stay in front of those that are found later. -/
lemma exists_append_of_tokensAfter {acc found : List Placed} {offset : Nat} {cs : List Char}
    (h : tokensAfter acc offset cs = .ok found) : ∃ ps, found = acc.reverse ++ ps := by
  fun_induction tokensAfter acc offset cs with
  | case1 acc offset =>
    cases h
    exact ⟨_, List.reverse_cons⟩
  | case2 acc offset c rest hblank ih => exact ih h
  | case3 => cases h
  | case4 acc offset c rest hblank token more hfirst ih =>
    obtain ⟨ps, rfl⟩ := ih h
    exact ⟨⟨token, offset⟩ :: ps, by simp⟩

/-- The characters in front of a token split into the tokens in front of it. -/
lemma lexes_take_of_mem {acc before after : List Placed} {t : Placed} {offset : Nat}
    {cs : List Char} (h : tokensAfter acc offset cs = .ok (acc.reverse ++ (before ++ t :: after))) :
    ∃ n ls, t.offset = offset + n ∧ Lexes (cs.take n) ls ∧
      ls.map Lexeme.token = before.map Placed.token := by
  generalize hfound : acc.reverse ++ (before ++ t :: after) = found at h
  fun_induction tokensAfter acc offset cs generalizing before with
  | case1 acc offset =>
    cases h
    rw [List.reverse_cons, List.append_cancel_left_eq] at hfound
    cases before with
    | nil =>
      obtain ⟨rfl, -⟩ := List.cons.inj hfound
      exact ⟨0, [], rfl, .nil, rfl⟩
    | cons p before => simp at hfound
  | case2 acc offset c rest hblank ih =>
    obtain ⟨n, ls, hn, hls, hmap⟩ := ih hfound h
    exact ⟨n + 1, ls, by omega, .blank hblank hls, hmap⟩
  | case3 => cases h
  | case4 acc offset c rest hblank token more hfirst ih =>
    obtain ⟨part, rest, rfl, rfl, hleads⟩ := Leads.of_first hfirst
    obtain ⟨ps, rfl⟩ := exists_append_of_tokensAfter h
    rw [List.reverse_cons, List.append_assoc, List.append_cancel_left_eq] at hfound
    cases before with
    | nil =>
      obtain ⟨rfl, -⟩ := List.cons.inj hfound
      exact ⟨0, [], rfl, .nil, rfl⟩
    | cons p before =>
      obtain ⟨rfl, rfl⟩ := List.cons.inj hfound
      rw [List.drop_left] at h ih
      obtain ⟨n, ls, hn, hls, hmap⟩ := ih rfl h
      refine ⟨(c :: part).length + n, ⟨token, c :: part⟩ :: ls, ?_, ?_, ?_⟩
      · rw [hn, List.length_cons]
        omega
      · rw [← List.cons_append, List.take_length_add_append]
        rw [← List.take_append_drop n rest] at hleads
        exact .lexeme hleads.of_append hls
      · simp [hmap]

/-! ## Completing what was read -/

variable {limits : Limits}

/-- Behind a complete operand a closing parenthesis for each parenthesis and call that is open makes
an expression. -/
lemma Opened.exists_closing {k depth calls : Nat} {ts us : List Token} {frames : List Frame}
    {e : Expr} (h : Opened limits ts frames depth calls) (he : Fits limits depth calls k us e)
    (hk : Admits k frames) :
    ∃ n e', Fits limits 0 0 0 (ts ++ us ++ List.replicate n .closeParen) e' := by
  induction h generalizing k us e with
  | start => exact ⟨0, e, by simpa using he.of_le (Nat.zero_le k)⟩
  | @sign op sign ts frames depth calls spelling outer room ih =>
    obtain ⟨d, c, hder, hd, hc⟩ := he
    have hsigned : Fits limits depth calls 4 (.operator op :: us) (.unary sign e) :=
      ⟨d + 1, c, .signed spelling (hder.of_le hk), by omega, hc⟩
    simpa using ih hsigned (admits_four frames)
  | @paren ts frames depth calls outer room ih =>
    obtain ⟨d, c, hder, hd, hc⟩ := he
    have hparen : Fits limits depth calls 5 (.openParen :: us ++ [.closeParen]) e :=
      ⟨d + 1, c, .paren (hder.of_le (Nat.zero_le k)), by omega, hc⟩
    obtain ⟨n, e', hfits⟩ := ih hparen ((admits_four frames).of_le (by omega))
    exact ⟨n + 1, e', by simpa [List.replicate_succ] using hfits⟩
  | @binary op ts vs left frames depth calls outer admits operand ih =>
    obtain ⟨d, c, hder, hd, hc⟩ := he
    obtain ⟨d', c', hder', hd', hc'⟩ := operand
    have hmax : depth + max d' d ≤ limits.maxDepth := by omega
    have hboth : Fits limits depth calls op.level (vs ++ .operator op :: us) (.binary op left e) :=
      ⟨_, _, .binary op hder' (hder.of_le hk), hmax, calls_max_le hc' hc⟩
    simpa using ih hboth admits
  | @call name ts before args frames depth calls outer room leave hbefore ih =>
    obtain ⟨d, c, hargs, hd, hc⟩ := hbefore.snoc (he.of_le (Nat.zero_le k))
    have hcalls : calls + 1 + c ≤ 1 → calls + (c + 1) ≤ 1 := by omega
    have hcall : Fits limits depth calls 5
        (.name name :: .openParen :: (before ++ us) ++ [.closeParen])
        (.call name (args.reverse ++ [e])) :=
      ⟨d + 1, c + 1, .call name hargs, by omega, hc.imp id hcalls⟩
    obtain ⟨n, e', hfits⟩ := ih hcall ((admits_four frames).of_le (by omega))
    exact ⟨n + 1, e', by simpa [List.replicate_succ] using hfits⟩

/-- What the reader has taken can be completed, unless it awaits the arguments of a name or has come
to the end: by a cell where an operand or a corner is awaited, and by closing parentheses. -/
lemma Consumed.exists_completion {ts : List Token} {p : Progress} (h : Consumed limits ts p)
    (hname : ∀ name, p.awaiting ≠ .arguments name) (hend : .endOfText ∉ ts) (a : Address) :
    ∃ us n e, (us = [] ∨ us = [.cell a]) ∧
      Fits limits 0 0 0 (ts ++ us ++ List.replicate n .closeParen) e := by
  obtain ⟨frames, depth, calls, awaiting⟩ := p
  have hadmits : Admits 5 frames := (admits_four frames).of_le (by omega)
  cases awaiting with
  | operand =>
    have hopen : Opened limits ts frames depth calls := h
    obtain ⟨n, e, hfits⟩ := hopen.exists_closing (hopen.fits (.cell a)) hadmits
    exact ⟨_, n, e, .inr rfl, hfits⟩
  | arguments name => exact absurd rfl (hname name)
  | firstArgument =>
    obtain ⟨hopen, -⟩ := h
    obtain ⟨n, e, hfits⟩ := hopen.exists_closing (hopen.fits (.cell a)) hadmits
    exact ⟨_, n, e, .inr rfl, hfits⟩
  | colonOrNext b =>
    obtain ⟨us, rfl, hopen⟩ := h
    obtain ⟨n, e, hfits⟩ := hopen.exists_closing (hopen.fits (.cell b)) hadmits
    exact ⟨[], n, e, .inl rfl, by simpa using hfits⟩
  | corner b =>
    obtain ⟨us, rfl, hopen⟩ := h
    obtain ⟨n, e, hfits⟩ := hopen.exists_closing (hopen.fits (.range b a)) hadmits
    exact ⟨_, n, e, .inr rfl, by simpa using hfits⟩
  | next e =>
    obtain ⟨us, vs, rfl, hopen, he⟩ := h
    obtain ⟨n, e', hfits⟩ := hopen.exists_closing he hadmits
    exact ⟨[], n, e', .inl rfl, by simpa using hfits⟩
  | nothing e =>
    obtain ⟨us, rfl, -⟩ := h
    exact absurd (List.mem_append_right us List.mem_cons_self) hend

/-! ## The token that stops the reader -/

namespace Progress

variable {p q : Progress} {t u : Placed}

/-- A construct that cannot be opened is no unexpected token. -/
lemma enter_ne_unexpected {frame : Frame} {awaiting : Awaiting} :
    p.enter limits frame awaiting ≠ .error (.unexpectedToken u) := by
  unfold enter
  split <;> simp

/-- A token that is not taken as an operand is reported as itself. -/
lemma takeOperand_eq_unexpected (h : p.takeOperand limits t = .error (.unexpectedToken u)) :
    u = t := by
  unfold takeOperand at h
  split at h
  case h_5 => exact absurd h enter_ne_unexpected
  case h_6 =>
    split at h
    · exact absurd h enter_ne_unexpected
    · cases h
      rfl
  case h_7 =>
    cases h
    rfl
  all_goals cases h

/-- A token that is not taken behind an operand is reported as itself. -/
lemma takeNext_eq_unexpected {e : Expr} (h : p.takeNext e t = .error (.unexpectedToken u)) :
    u = t := by
  unfold takeNext at h
  split at h
  · cases h
  · split at h <;> cases h
    rfl

/-- The unexpected token is the one that is taken, and it does not stand behind a name. -/
lemma take_eq_unexpected (h : p.take limits t = .error (.unexpectedToken u)) :
    u = t ∧ ∀ name, p.awaiting ≠ .arguments name := by
  unfold take at h
  split at h
  case h_1 hawait => exact ⟨takeOperand_eq_unexpected h, by simp [hawait]⟩
  case h_2 =>
    split at h
    · split at h
      · cases h
      · exact absurd h enter_ne_unexpected
    · cases h
  case h_3 hawait =>
    split at h
    · cases h
    · exact ⟨takeOperand_eq_unexpected h, by simp [hawait]⟩
  case h_4 hawait =>
    split at h
    · cases h
    · exact ⟨takeNext_eq_unexpected h, by simp [hawait]⟩
  case h_5 hawait =>
    split at h <;> cases h
    exact ⟨rfl, by simp [hawait]⟩
  case h_6 hawait => exact ⟨takeNext_eq_unexpected h, by simp [hawait]⟩
  case h_7 hawait =>
    cases h
    exact ⟨rfl, by simp [hawait]⟩

/-- Behind the end of the text nothing is awaited. -/
lemma awaits_nothing_of_take (ht : t.token = .endOfText) (h : p.take limits t = .ok q) :
    ∃ e, q.awaiting = .nothing e := by
  have hnext : ∀ e, p.takeNext e t = .ok q → ∃ e, q.awaiting = .nothing e := by
    intro e h
    unfold takeNext at h
    simp only [ht] at h
    split at h
    case h_4 =>
      cases h
      exact ⟨_, rfl⟩
    case h_5 => cases h
    all_goals contradiction
  unfold take at h
  simp only [takeOperand, ht] at h
  split at h
  case h_3 =>
    split at h
    · contradiction
    · cases h
  case h_4 => exact hnext _ h
  case h_6 => exact hnext _ h
  all_goals cases h

end Progress

/-- A text that is not read because of a token has been read up to there. -/
lemma Expr.ofTokens_eq_unexpected {found : List Placed} {t : Placed}
    (hlast : ∃ inner last, found = inner ++ [last] ∧ last.token = .endOfText)
    (h : Expr.ofTokens limits found = .error (.unexpectedToken t)) :
    ∃ before after p, found = before ++ t :: after ∧
      before.foldlM (Progress.take limits) .start = .ok p ∧
      p.take limits t = .error (.unexpectedToken t) := by
  rcases bind_eq_error_iff.mp h with hrun | ⟨final, hrun, hfinal⟩
  · obtain ⟨before, t', after, p, rfl, hbefore, htake⟩ := foldlM_eq_error_iff.mp hrun
    obtain ⟨rfl, -⟩ := Progress.take_eq_unexpected htake
    exact ⟨before, after, p, rfl, hbefore, htake⟩
  · -- The end of the text was taken, and then the reader has a tree.
    obtain ⟨inner, last, rfl, hend⟩ := hlast
    rw [List.foldlM_append] at hrun
    obtain ⟨p, -, hrun⟩ := bind_eq_ok_iff.mp hrun
    rw [List.foldlM_cons] at hrun
    obtain ⟨q, hq, hrun⟩ := bind_eq_ok_iff.mp hrun
    obtain rfl : q = final := Except.ok.inj hrun
    obtain ⟨e, he⟩ := Progress.awaits_nothing_of_take hend hq
    rw [he] at hfinal
    cases hfinal

/-- Where the tokens stand does not matter to what they are read as. -/
lemma Expr.ofTokens_of_map_eq {found found' : List Placed} {e : Expr}
    (h : found.map Placed.token = found'.map Placed.token)
    (he : Expr.ofTokens limits found = .ok e) : Expr.ofTokens limits found' = .ok e := by
  rw [Expr.ofTokens_eq_ok_iff] at he ⊢
  rwa [← h]

/-- Tokens that start with what stopped the reader at an unexpected token are read under no
limits. -/
lemma Expr.ofTokens_ne_ok_of_unexpected {before : List Placed} {p : Progress} {t : Placed}
    (hbefore : before.foldlM (Progress.take limits) .start = .ok p)
    (htake : p.take limits t = .error (.unexpectedToken t)) {limits' : Limits}
    {found : List Placed} {e : Expr}
    (hstart : (before ++ [t]).map Placed.token <+: found.map Placed.token) :
    Expr.ofTokens limits' found ≠ .ok e := by
  intro h
  obtain ⟨rest, hrest⟩ := hstart
  obtain ⟨first, last, rfl, hfirst, -⟩ := List.map_eq_append_iff.mp hrest.symm
  have hplaced : (first ++ last).map Placed.token = (before ++ [t] ++ last).map Placed.token := by
    rw [List.map_append, hfirst, ← List.map_append]
  have hread := Expr.ofTokens_of_map_eq hplaced h
  have hstop : (before ++ [t]).foldlM (Progress.take limits) .start =
      .error (.unexpectedToken t) := by
    rw [Progress.foldlM_append hbefore]
    exact foldlM_eq_error_iff.mpr ⟨[], t, [], p, rfl, rfl, htake⟩
  -- Under limits that allow what either ones allow, both outcomes would have to stay.
  obtain ⟨higher, hle, hle'⟩ := limits.exists_le_and_le limits'
  have hread' : Expr.ofTokens higher (before ++ [t] ++ last) = .ok e := by
    rw [← hread]
    refine (Expr.ofTokens_persists hle' _).eq_of_not_isLimit fun err herr => ?_
    rw [hread] at herr
    cases herr
  have hstop' : (before ++ [t]).foldlM (Progress.take higher) .start =
      .error (.unexpectedToken t) := by
    rw [← hstop]
    refine (Progress.foldlM_persists hle _ _).eq_of_not_isLimit fun err herr => ?_
    rw [hstop] at herr
    cases herr
    exact id
  obtain ⟨final, hrun, -⟩ := bind_eq_ok_iff.mp hread'
  rw [List.foldlM_append, hstop'] at hrun
  cases hrun

/-! ## Texts -/

/-- Closing parentheses in a row are lexemes one by one. -/
lemma exists_lexes_closeParen (n : Nat) : ∃ ls, Lexes (List.replicate n ')') ls ∧
    ls.map Lexeme.token = List.replicate n .closeParen := by
  induction n with
  | zero => exact ⟨[], .nil, rfl⟩
  | succ n ih =>
    obtain ⟨ls, hls, hmap⟩ := ih
    have hleads : Leads ⟨.closeParen, [')']⟩ (List.replicate n ')') := .mark rfl
    exact ⟨_, .lexeme hleads hls, by rw [List.map_cons, hmap, List.replicate_succ]⟩

/-- Some text splits into an operand, if one is asked for, and closing parentheses. -/
lemma exists_lexes_completion {a : Address} {us : List Token} (hus : us = [] ∨ us = [.cell a])
    (n : Nat) : ∃ cs ls, Lexes cs ls ∧
      ls.map Lexeme.token = us ++ List.replicate n .closeParen := by
  obtain ⟨closing, hclosing, hmap⟩ := exists_lexes_closeParen n
  rcases hus with rfl | rfl
  · exact ⟨_, closing, hclosing, hmap⟩
  · have hleads : Leads ⟨.cell a, a.text.toList⟩ [] := leads_cell a (by simp [Closed])
    have hcell : Lexes a.text.toList [⟨.cell a, a.text.toList⟩] := by
      simpa using Lexes.lexeme hleads .nil
    have hblank : Text.isBlankChar ' ' = true := by decide
    exact ⟨_, _, hcell.append hblank hclosing, by simp [hmap]⟩

/-- What stands in front of an unexpected token starts a text that is read. -/
lemma Consumed.exists_text {s : String} {before after : List Placed} {t : Placed} {p : Progress}
    (hfound : tokens s = .ok (before ++ t :: after))
    (h : Consumed limits (before.map Placed.token) p)
    (hname : ∀ name, p.awaiting ≠ .arguments name)
    (hend : .endOfText ∉ before.map Placed.token) :
    ∃ more found e, tokens (String.ofList (s.toList.take t.offset) ++ more) = .ok found ∧
      before.map Placed.token <+: found.map Placed.token ∧ Expr.ofTokens limits found = .ok e := by
  let corner : Address := ⟨⟨1, by decide, by decide⟩, ⟨1, by decide, by decide⟩⟩
  obtain ⟨us, n, e, hus, hfits⟩ := h.exists_completion hname hend corner
  obtain ⟨cs, more, hmore, hmap⟩ := exists_lexes_completion hus n
  obtain ⟨k, ls, hk, hls, hbefore⟩ := @lexes_take_of_mem [] before after t 0 s.toList hfound
  rw [Nat.zero_add] at hk
  have hblank : Text.isBlankChar ' ' = true := by decide
  have hall := hls.append hblank hmore
  obtain ⟨found, hread, htokens⟩ := hall.tokensAfter [] 0
  rw [List.map_append, hbefore, hmap, List.reverse_nil, List.map_nil, List.nil_append] at htokens
  refine ⟨String.ofList (' ' :: cs), found, e, ?_, ?_, ?_⟩
  · rw [tokens, String.toList_append, String.toList_ofList, String.toList_ofList, hk]
    exact hread
  · rw [htokens, List.append_assoc]
    exact List.prefix_append _ _
  · exact Expr.ofTokens_eq_ok_iff.mpr ⟨_, htokens, by rwa [← List.append_assoc]⟩

/-- The token that a text is not read for is the first impossible one.  It stands once among the
tokens of the text; the characters in front of it start a text that is read under the same limits,
whose tokens start with those in front of it; and no tokens that start with these and with it are
read under any limits.  Where it is the end of the text, the tokens in front of it are no
expression. -/
theorem Expr.unexpectedToken_first_impossible {s : String} {found : List Placed} {t : Placed}
    (hfound : tokens s = .ok found)
    (h : Expr.ofTokens limits found = .error (.unexpectedToken t)) :
    ∃ before after, found = before ++ t :: after ∧ t ∉ before ∧ t ∉ after ∧
      (∃ more found' e, tokens (String.ofList (s.toList.take t.offset) ++ more) = .ok found' ∧
        before.map Placed.token <+: found'.map Placed.token ∧
        Expr.ofTokens limits found' = .ok e) ∧
      (∀ limits' found' e, (before ++ [t]).map Placed.token <+: found'.map Placed.token →
        Expr.ofTokens limits' found' ≠ .ok e) ∧
      (t.token = .endOfText → ∀ e depth calls,
        ¬Derives 0 (before.map Placed.token) e depth calls) := by
  obtain ⟨_, rfl, hsplits⟩ :=
    @Splits.of_tokensAfter [] found 0 s.toList s.toList hfound rfl (Nat.zero_le _)
  obtain ⟨inner, hinner, -⟩ := hsplits.last
  obtain ⟨before, after, p, rfl, hbefore, htake⟩ :=
    Expr.ofTokens_eq_unexpected ⟨inner, _, hinner, rfl⟩ h
  obtain ⟨-, hafter, hacross⟩ := List.pairwise_append.mp hsplits.pairwise_offset
  have hstart : Consumed limits [] .start := Opened.start
  have hconsumed : Consumed limits (before.map Placed.token) p := hstart.foldlM hbefore
  have hname := (Progress.take_eq_unexpected htake).2
  have hend : Token.endOfText ∉ before.map Placed.token := by
    intro hmem
    obtain ⟨q, hq, hqend⟩ := List.mem_map.mp hmem
    exact hsplits.token_ne_endOfText q hq hqend
  have hnone : ∀ limits' found' e, (before ++ [t]).map Placed.token <+: found'.map Placed.token →
      Expr.ofTokens limits' found' ≠ .ok e :=
    fun limits' found' e hmore => Expr.ofTokens_ne_ok_of_unexpected hbefore htake hmore
  refine ⟨before, after, rfl, ?_, ?_, hconsumed.exists_text hfound hname hend, hnone, ?_⟩
  · intro hmem
    exact Nat.lt_irrefl _ (hacross t hmem t List.mem_cons_self)
  · intro hmem
    exact Nat.lt_irrefl _ (List.rel_of_pairwise_cons hafter hmem)
  · intro ht e depth calls hder
    let roomy : Limits := { maxDepth := depth, nestedCalls := true }
    refine hnone roomy (before ++ [t]) e List.prefix_rfl ?_
    refine Expr.ofTokens_eq_ok_iff.mpr ⟨_, ?_, depth, calls, hder, ?_, .inl rfl⟩
    · rw [List.map_append, List.map_singleton, ht]
    · exact Nat.le_of_eq (Nat.zero_add depth)

/-- A comma where an operand is awaited, inside a sign, a call and a parenthesis.  What stands in
front of it can be completed, and nothing completes it together with the comma. -/
theorem Expr.unexpectedToken_first_impossible_comma :
    let limits : Limits := { nestedCalls := true }
    let found : List Placed :=
      [⟨.operator .subtract, 0⟩, ⟨.name "MAX", 1⟩, ⟨.openParen, 4⟩, ⟨.openParen, 5⟩,
        ⟨.number Binary.one, 6⟩, ⟨.operator .add, 7⟩, ⟨.comma, 8⟩, ⟨.endOfText, 9⟩]
    tokens "-MAX((1+," = .ok found ∧
      Expr.ofTokens limits found = .error (.unexpectedToken ⟨.comma, 8⟩) ∧
      (∃ more found' e, tokens ("-MAX((1+" ++ more) = .ok found' ∧
        Expr.ofTokens limits found' = .ok e) ∧
      ∀ limits' found' e, (found.take 7).map Placed.token <+: found'.map Placed.token →
        Expr.ofTokens limits' found' ≠ .ok e := by
  intro limits found
  have hfound : tokens "-MAX((1+," = .ok found := by decide +kernel
  have herror : Expr.ofTokens limits found = .error (.unexpectedToken ⟨.comma, 8⟩) := by
    decide +kernel
  obtain ⟨before, after, hsplit, hbefore, hafter, ⟨more, found', e, hread, -, he⟩, hnone, -⟩ :=
    Expr.unexpectedToken_first_impossible hfound herror
  have hfront : String.ofList ("-MAX((1+,".toList.take 8) = "-MAX((1+" := by decide +kernel
  have hlength : before.length = 6 := by
    have hindex : found.idxOf ⟨.comma, 8⟩ = 6 := by decide +kernel
    rwa [hsplit, List.idxOf_append_of_notMem hbefore, List.idxOf_cons_self] at hindex
  have htake : found.take 7 = before ++ [⟨.comma, 8⟩] := by
    rw [hsplit, List.take_append, hlength, List.take_of_length_le (by omega)]
    rfl
  rw [hfront] at hread
  rw [htake]
  exact ⟨hfound, herror, ⟨more, found', e, hread, he⟩, hnone⟩

end Formula

end Spreadsheet
