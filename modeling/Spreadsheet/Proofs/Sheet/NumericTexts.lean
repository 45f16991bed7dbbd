import Spreadsheet.Proofs.Formula.Finiteness
import Spreadsheet.Proofs.Formula.Rereading
import Spreadsheet.Proofs.Sheet.StoredResults

/-!
# Cells and formulas read the same numbers

Numbers are read in two ways.  The text of a cell is trimmed and read as a whole, with a sign or
without one.  A formula is split into lexemes, in which white space is passed over, a number has no
sign, and a sign in front of it is an operator.  The main result, `Sheet.evaluate_numericText`, says
that the two agree: a numeric text with `=` in front of it is a formula for the same number, a text
with a number for its only token is numeric, and so it makes no difference whether a number is typed
into a cell and referred to or typed as a formula.

`WritesNumber` describes the characters in question, a number with at most one sign directly in
front of it.  They are what cells read (`ofCellText?_eq_some_iff`), white space around them aside,
and formulas read them as a tree of depth one at most (`WritesNumber.reads`).  Formulas read more
than that: `- 5` and `--5` are no numeric texts.
-/

namespace Spreadsheet

/-! ## Numbers in cells -/

namespace Binary

variable {f : Binary.Format}

/-- Rounding a decimal with a minus sign is rounding it without one and changing the sign. -/
lemma ofDecimal_true (d : Decimal) : (ofDecimal true d : Binary f) = -ofDecimal false d := by
  unfold ofDecimal
  split <;> rfl

/-- A finite number without a sign is read from a decimal, and not from a word. -/
lemma exists_decimal_of_readUnsigned? {negative : Bool} {cs : List Char} {n : Binary f}
    (h : readUnsigned? negative cs = some n) (hn : n.isFinite = true) :
    ∃ d, Decimal.read? cs = some d ∧ ofDecimal negative d = n := by
  unfold readUnsigned? at h
  dsimp only at h
  split at h
  case isTrue =>
    cases h
    cases hn
  case isFalse =>
    split at h
    case isTrue =>
      cases h
      cases hn
    case isFalse => exact Option.map_eq_some_iff.mp h

end Binary

namespace Formula

open Token

/-- Characters that are read as a decimal name its number, if this is within reach. -/
lemma names_of_decimal {w : List Char} {d : Decimal} (h : Decimal.read? w = some d)
    (hd : (Binary.ofDecimal false d : Number).isFinite = true) :
    Names w (Binary.ofDecimal false d) := by
  refine ⟨?_, hd⟩
  rw [numeral?, h, Option.map_some]

/-- The characters write a finite number with at most one sign directly in front of it. -/
inductive WritesNumber : List Char → Number → Prop where
  | unsigned {w : List Char} {n : Number} (names : Names w n) : WritesNumber w n
  | plus {w : List Char} {n : Number} (names : Names w n) : WritesNumber ('+' :: w) n
  | minus {w : List Char} {n : Number} (names : Names w n) : WritesNumber ('-' :: w) (-n)

/-- These are the finite numbers that cells read from characters without white space around them. -/
lemma read?_finite_iff {cs : List Char} {n : Number} :
    Binary.read? cs = some n ∧ n.isFinite = true ↔ WritesNumber cs n := by
  constructor
  · rintro ⟨hread, hfinite⟩
    unfold Binary.read? at hread
    split at hread
    case h_1 cs =>
      obtain ⟨d, hd, rfl⟩ := Binary.exists_decimal_of_readUnsigned? hread hfinite
      exact .plus (names_of_decimal hd hfinite)
    case h_2 cs =>
      obtain ⟨d, hd, rfl⟩ := Binary.exists_decimal_of_readUnsigned? hread hfinite
      rw [Binary.ofDecimal_true] at hfinite ⊢
      rw [isFinite_neg] at hfinite
      exact .minus (names_of_decimal hd hfinite)
    case h_3 =>
      obtain ⟨d, hd, rfl⟩ := Binary.exists_decimal_of_readUnsigned? hread hfinite
      exact .unsigned (names_of_decimal hd hfinite)
  · intro h
    cases h with
    | unsigned names =>
      obtain ⟨d, hd, rfl⟩ := Option.map_eq_some_iff.mp names.1
      exact ⟨Binary.read?_of_decimal hd false, names.2⟩
    | plus names =>
      obtain ⟨d, hd, rfl⟩ := Option.map_eq_some_iff.mp names.1
      exact ⟨Binary.readUnsigned?_of_decimal hd false, names.2⟩
    | minus names =>
      obtain ⟨d, hd, rfl⟩ := Option.map_eq_some_iff.mp names.1
      rw [isFinite_neg, ← Binary.ofDecimal_true]
      exact ⟨Binary.read?_of_decimal hd true, names.2⟩

/-- A number with or without a sign consists of digits and of the marks of numerals. -/
lemma WritesNumber.isDigit_or_mem {w : List Char} {n : Number} (h : WritesNumber w n) :
    ∀ c ∈ w, c.isDigit = true ∨ c ∈ numeralMarks := by
  have hsigned : ∀ {w : List Char} {n : Number} {sign : Char}, Names w n → sign ∈ numeralMarks →
      ∀ c ∈ sign :: w, c.isDigit = true ∨ c ∈ numeralMarks := by
    intro w n sign names hsign
    exact List.forall_mem_cons.mpr ⟨.inr hsign, names.isNumeral.isDigit_or_mem⟩
  cases h with
  | unsigned names => exact names.isNumeral.isDigit_or_mem
  | plus names => exact hsigned names (by decide)
  | minus names => exact hsigned names (by decide)

/-- There is no white space within a number, so that trimming leaves it as it is. -/
lemma WritesNumber.isBlankChar {w : List Char} {n : Number} (h : WritesNumber w n) :
    ∀ c ∈ w, Text.isBlankChar c = false :=
  fun c hc => not_isBlankChar_of_isDigit_or_mem (h.isDigit_or_mem c hc)

/-- A text is numeric if it is a finite number with at most one sign and white space around it. -/
lemma ofCellText?_eq_some_iff {t : String} {n : Number} : Number.ofCellText? t = some n ↔
    ∃ before w after, t.toList = before ++ w ++ after ∧ before.all Text.isBlankChar = true ∧
      after.all Text.isBlankChar = true ∧ WritesNumber w n := by
  rw [Number.ofCellText?, Option.filter_eq_some_iff, read?_finite_iff]
  constructor
  · intro h
    obtain ⟨before, after, ht, hbefore, hafter⟩ := Text.exists_append_trimChars t.toList
    exact ⟨before, _, after, ht, hbefore, hafter, h⟩
  · rintro ⟨before, w, after, ht, hbefore, hafter, h⟩
    rwa [ht, Text.trimChars_append hbefore hafter h.isBlankChar]

/-- A numeric text holds no equals sign, so it is never taken for a formula. -/
lemma equals_notMem_of_ofCellText? {t : String} {n : Number} (h : Number.ofCellText? t = some n) :
    '=' ∉ t.toList := by
  obtain ⟨before, w, after, ht, hbefore, hafter, hw⟩ := ofCellText?_eq_some_iff.mp h
  have hblank : ∀ {cs : List Char}, cs.all Text.isBlankChar = true → '=' ∉ cs := by
    intro cs hcs hmem
    exact absurd (List.all_eq_true.mp hcs _ hmem) (by decide)
  intro hmem
  rw [ht] at hmem
  rcases List.mem_append.mp hmem with hmem | hmem
  · rcases List.mem_append.mp hmem with hmem | hmem
    · exact hblank hbefore hmem
    · exact absurd (hw.isDigit_or_mem _ hmem) (by decide)
  · exact hblank hafter hmem

/-! ## Numbers in formulas -/

/-- The characters are the lexemes of a tree of depth one at most, which has the number for its
value whatever is in the cells. -/
def ReadsAs (cs : List Char) (n : Number) : Prop :=
  ∃ ls e d, Lexes cs ls ∧ Derives 0 (ls.map Lexeme.token) e d 0 ∧ d ≤ 1 ∧
    ∀ limits cells, eval limits cells e = .ok (.number n)

section WhiteSpaceBehind

variable {w rest : List Char} {n : Number}

/-- A number with white space behind it is a single lexeme. -/
lemma Names.lexes (h : Names w n) (hrest : rest.all Text.isBlankChar = true) :
    Lexes (w ++ rest) [⟨.number n, w⟩] := by
  have hclosed : Closed rest := by
    apply closed_of_isBlankChar
    exact fun c hc => List.all_eq_true.mp hrest c (List.mem_of_mem_head? hc)
  exact .lexeme (h.leads hclosed) (Lexes.none_iff.mpr hrest)

/-- A formula reads a number without a sign as it stands: no construct counts towards the depth. -/
lemma Names.reads (h : Names w n) (hrest : rest.all Text.isBlankChar = true) :
    ReadsAs (w ++ rest) n :=
  ⟨_, .number n, 0, h.lexes hrest, (Derives.number n).of_le (Nat.zero_le 5), Nat.zero_le 1,
    fun _ _ => eval_number n⟩

/-- In a formula a sign in front of a number is an operator, whose outcome is the number with its
sign. -/
lemma Names.reads_signed (h : Names w n) (hrest : rest.all Text.isBlankChar = true) {c : Char}
    (op : BinaryOp) {sign : UnaryOp} {m : Number}
    (found : mark? c (w ++ rest) = some (.operator op, 0)) (spelling : op.sign? = some sign)
    (hm : applyUnary sign (.number n) = .ok (.number m)) : ReadsAs (c :: w ++ rest) m := by
  have hleads : Leads ⟨.operator op, [c]⟩ (w ++ rest) := .mark found
  have hder : Derives 4 [.operator op, .number n] (.unary sign (.number n)) 1 0 :=
    .signed spelling (Derives.number n).looser
  refine ⟨_, _, 1, .lexeme hleads (h.lexes hrest), hder.of_le (Nat.zero_le 4), le_rfl, ?_⟩
  intro limits cells
  rw [eval_unary, eval_number]
  exact hm

/-- A formula reads what the characters write, with a sign as an operator. -/
lemma WritesNumber.reads (h : WritesNumber w n) (hrest : rest.all Text.isBlankChar = true) :
    ReadsAs (w ++ rest) n := by
  cases h with
  | unsigned names => exact names.reads hrest
  | plus names => exact names.reads_signed hrest .add rfl rfl rfl
  | minus names => exact names.reads_signed hrest .subtract rfl rfl rfl

end WhiteSpaceBehind

/-- What is read as a number is a formula with this value, under all limits that allow a depth of
one. -/
lemma ReadsAs.exists_ofText {limits : Limits} {t : String} {n : Number} (h : ReadsAs t.toList n)
    (hdepth : 1 ≤ limits.maxDepth) :
    ∃ e, Expr.ofText limits t = .ok e ∧ ∀ cells, eval limits cells e = .ok (.number n) := by
  obtain ⟨ls, e, d, hls, hder, hd, heval⟩ := h
  have hroom : 0 + d ≤ limits.maxDepth := (Nat.zero_add d).trans_le (hd.trans hdepth)
  exact ⟨e, Expr.ofText_eq_ok_iff_lexes.mpr ⟨ls, hls, d, 0, hder, hroom, .inr (Nat.zero_le 1)⟩,
    heval limits⟩

/-- A numeric text is read in a formula as the number that it is read as in a cell. -/
lemma readsAs_of_ofCellText? {t : String} {n : Number} (h : Number.ofCellText? t = some n) :
    ReadsAs t.toList n := by
  obtain ⟨before, w, after, ht, hbefore, hafter, hw⟩ := ofCellText?_eq_some_iff.mp h
  obtain ⟨ls, e, d, hls, hder, hd, heval⟩ := hw.reads hafter
  refine ⟨ls, e, d, ?_, hder, hd, heval⟩
  rw [ht, List.append_assoc]
  exact (Lexes.blanks_iff hbefore).mpr hls

/-- A text with a number for its only token is numeric. -/
lemma ofCellText?_of_tokens {t : String} {found : List Placed} {n : Number}
    (h : tokens t = .ok found) (hfound : found.map Placed.token = [.number n, .endOfText]) :
    Number.ofCellText? t = some n := by
  obtain ⟨ls, hls, hmap⟩ := (@tokens_eq_ok_iff t [.number n]).mp ⟨found, h, hfound⟩
  obtain ⟨⟨_, w⟩, rfl, rfl⟩ := List.map_eq_singleton_iff.mp hmap
  obtain ⟨before, after, ht, hbefore, hafter⟩ := hls.exists_append_of_singleton
  have hnames : Names w n := hls.names (List.mem_singleton_self _)
  exact ofCellText?_eq_some_iff.mpr ⟨before, w, after, ht, hbefore, hafter, .unsigned hnames⟩

/-- A formula is read without the sign of equality in front of it. -/
lemma body_equals (t : String) : body ("=" ++ t) = t := by
  have hlist : ("=" ++ t).toList = '=' :: t.toList := by
    rw [String.toList_append]
    rfl
  unfold body
  rw [hlist]
  exact String.ofList_toList

/-- A numeric text behind an equals sign has its number for a value, within the limits. -/
lemma evaluate_equals_of_ofCellText? {limits : Limits} {cells : Snapshot} {t : String} {n : Number}
    (h : Number.ofCellText? t = some n) (hlength : t.length + 1 ≤ limits.maxLength)
    (hdepth : 1 ≤ limits.maxDepth) : evaluate limits cells ("=" ++ t) = .ok (.number n) := by
  have hlength' : ("=" ++ t).length ≤ limits.maxLength := by
    rw [String.length_append, Nat.add_comm]
    exact hlength
  obtain ⟨e, he, heval⟩ := (readsAs_of_ofCellText? h).exists_ofText hdepth
  rw [← body_equals t] at he
  rw [evaluate_eq_eval he hlength', heval]

end Formula

/-! ## Numbers on a sheet -/

namespace Sheet

open Formula

variable {s : Sheet} {a : Address} {t : String} {n : Number}

/-- A numeric text is stored as it is typed, and formulas see its number. -/
lemma content_commit_of_ofCellText? (h : Number.ofCellText? t = some n) :
    (s.commit a t).1.snapshot.content a = .number n := by
  have hformula : ¬isFormula t = true := by
    rw [isFormula, beq_iff_eq]
    exact fun hhead => equals_notMem_of_ofCellText? h (List.mem_of_mem_head? hhead)
  unfold commit
  dsimp only
  rw [if_neg hformula]
  exact content_put_of_ofCellText? h none _

/-- A formula that is nothing but a reference has the number of the cell for its value. -/
lemma evaluate_of_content {f : String} (h : s.snapshot.content a = .number n)
    (hf : Expr.ofText s.limits (body f) = .ok (.cell a)) (hlength : f.length ≤ s.limits.maxLength) :
    s.evaluate f = .ok (.number n) := by
  rw [evaluate, evaluate_eq_eval hf hlength, eval_cell, h]
  rfl

/-- A numeric text with `=` in front of it is a formula for the number of the text, on every
snapshot, where the limits leave room for the characters and for one sign.  Conversely a text with a
number for its only token is numeric, and the number is the same.  So a numeric text that is
committed to a cell and referred to gives the same number as the formula committed in its place. -/
theorem evaluate_numericText :
    (∀ (limits : Limits) (cells : Snapshot) (t : String) (n : Number),
      Number.ofCellText? t = some n → t.length + 1 ≤ limits.maxLength → 1 ≤ limits.maxDepth →
        Formula.evaluate limits cells ("=" ++ t) = .ok (.number n)) ∧
    (∀ (t : String) (found : List Placed) (n : Number), tokens t = .ok found →
      found.map Placed.token = [.number n, .endOfText] → Number.ofCellText? t = some n) ∧
    ∀ (s : Sheet) (a : Address) (t : String) (n : Number), Number.ofCellText? t = some n →
      (s.commit a t).1.snapshot.content a = .number n ∧
      (∀ f, Expr.ofText s.limits (body f) = .ok (.cell a) → f.length ≤ s.limits.maxLength →
        (s.commit a t).1.evaluate f = .ok (.number n)) ∧
      (t.length + 1 ≤ s.limits.maxLength → 1 ≤ s.limits.maxDepth →
        (s.commit a ("=" ++ t)).2 = some (.ok (.number n))) := by
  refine ⟨fun limits cells t n => evaluate_equals_of_ofCellText?,
    fun t found n => ofCellText?_of_tokens, ?_⟩
  intro s a t n ht
  have hcontent : (s.commit a t).1.snapshot.content a = .number n :=
    content_commit_of_ofCellText? ht
  have hlimits : (s.commit a t).1.limits = s.limits := limits_commit s a t
  refine ⟨hcontent, fun f hf hlength => ?_, fun hlength hdepth => ?_⟩
  · rw [← hlimits] at hf hlength
    exact evaluate_of_content hcontent hf hlength
  · have hformula : isFormula ("=" ++ t) = true := by
      rw [isFormula, String.toList_append]
      rfl
    rw [commit_of_isFormula hformula]
    exact congrArg some (evaluate_equals_of_ofCellText? ht hlength hdepth)

/-- A negative number without a whole part, with an exponent and white space of two kinds around it,
in a cell and as a formula that just fits, and a positive one with a bare point as a sole token. -/
theorem evaluate_numericText_signed :
    let limits : Limits := { maxLength := 9, maxDepth := 1 }
    let s : Sheet := { limits }
    let a : Address := ⟨⟨1, by decide, by decide⟩, ⟨1, by decide, by decide⟩⟩
    let n : Number := .ofDecimal true ⟨5, 0⟩
    let t := "\u3000-.5e+1\u0085"
    Number.ofCellText? t = some n ∧ t.length + 1 ≤ limits.maxLength ∧
      Formula.evaluate limits (fun _ => none) ("=" ++ t) = .ok (.number n) ∧
      Number.ofCellText? "\t1.E3\u2003" = some (.ofDecimal false ⟨1, 3⟩) ∧
      (s.commit a t).1.evaluate "=A1" = .ok (.number n) ∧
      (s.commit a ("=" ++ t)).2 = some (.ok (.number n)) := by
  intro limits s a n t
  obtain ⟨hformula, htoken, hsheet⟩ := evaluate_numericText
  have ht : Number.ofCellText? t = some n := by decide +kernel
  have hlength : t.length + 1 ≤ limits.maxLength := by decide +kernel
  have hbody : body "=A1" = "A1" := by decide +kernel
  have hcell : Expr.ofText limits "A1" = .ok (.cell a) := by decide +kernel
  rw [← hbody] at hcell
  have htokens : tokens "\t1.E3\u2003" =
      .ok [⟨.number (.ofDecimal false ⟨1, 3⟩), 1⟩, ⟨.endOfText, 6⟩] := by
    decide +kernel
  obtain ⟨-, hreferred, htyped⟩ := hsheet s a t n ht
  exact ⟨ht, hlength, hformula limits _ t n ht hlength le_rfl, htoken _ _ _ htokens rfl,
    hreferred "=A1" hcell (by decide), htyped hlength le_rfl⟩

end Sheet

end Spreadsheet
