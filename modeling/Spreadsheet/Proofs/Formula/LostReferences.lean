import Spreadsheet.Proofs.Formula.Shifting

/-!
# Lost references show

A formula that loses a reference when it is shifted has no value any more
(`evaluate_shifted_of_lost`): whatever the cells hold, whatever the limits and whatever literals
stand in its text, it shows the error.

Two things have to agree for that.  Each address of the tree comes from a word of the text
(`Derives.addresses_eq`), and the scan that shifts the text takes this word for a reference too,
because nothing runs into an operand of a formula that is read.  The mark of a lost reference then
stands outside literals, where no token starts with it (`not_lexes_lostReference`).
-/

namespace Spreadsheet

namespace Formula

/-! ## The addresses of a tree -/

mutual

/-- The references of a tree and the corners of its ranges, from left to right. -/
def Expr.addresses : Expr → List Address
  | .number _ | .text _ => []
  | .cell a => [a]
  | .range r => [r.first, r.last]
  | .unary _ e => e.addresses
  | .binary _ l r => l.addresses ++ r.addresses
  | .call _ args => addressesAll args

/-- The addresses of several trees. -/
def addressesAll : List Expr → List Address
  | [] => []
  | e :: es => e.addresses ++ addressesAll es

end

/-- The addresses of two lists of trees one after the other are those of the first and those of the
second. -/
lemma addressesAll_append (es us : List Expr) :
    addressesAll (es ++ us) = addressesAll es ++ addressesAll us := by
  induction es with
  | nil => simp [addressesAll]
  | cons e es ih => simp [addressesAll, ih]

/-- The address of a token. -/
def Token.address? : Token → Option Address
  | .cell a => some a
  | _ => none

mutual

/-- The addresses of a tree are those of its tokens, in order. -/
lemma Derives.addresses_eq {level d c : Nat} {ts : List Token} {e : Expr} :
    Derives level ts e d c → ts.filterMap Token.address? = e.addresses
  | .number _ | .text _ | .cell _ | .emptyCall _ => by
    simp [Expr.addresses, Token.address?, addressesAll]
  | .range _ _ => rfl
  | .paren inner => by simp [List.filterMap_cons, Token.address?, inner.addresses_eq]
  | .call _ arguments => by
    simp [List.filterMap_cons, Token.address?, Expr.addresses, arguments.addresses_eq]
  | .signed _ operand => by
    simp [List.filterMap_cons, Token.address?, Expr.addresses, operand.addresses_eq]
  | .binary _ first second => by
    simp [List.filterMap_cons, Token.address?, Expr.addresses, first.addresses_eq,
      second.addresses_eq]
  | .looser phrase => phrase.addresses_eq

/-- The references among the tokens of arguments are those of the trees, from left to right. -/
lemma DerivesArguments.addresses_eq {d c : Nat} {ts : List Token} {es : List Expr} :
    DerivesArguments ts es d c → ts.filterMap Token.address? = addressesAll es
  | .one argument => by simp [addressesAll, argument.addresses_eq]
  | .more others argument => by
    simp [List.filterMap_cons, Token.address?, addressesAll_append, others.addresses_eq,
      argument.addresses_eq, addressesAll]

end

/-! ## The mark of a lost reference -/

variable {shift : Shift} {a : Address}

/-- No token starts with the mark of a lost reference. -/
lemma not_lexes_lostReference {rest : List Char} {ls : List Lexeme} :
    ¬Lexes (lostReference.toList ++ rest) ls := by
  intro h
  have hfirst : ∀ cs, Token.first '#' cs = .error (.unknownCharacter '#') := by
    intro cs
    simp [Token.first, Token.startsNumber, Token.isNameStart, Token.mark?]
  have hmark : lostReference.toList ++ rest = '#' :: ("REF!".toList ++ rest) := rfl
  rw [hmark] at h
  rcases h.cons_inv with ⟨white, -⟩ | ⟨-, t, part, rest', ls', hcs, -, leads, -⟩
  · exact absurd white (by decide)
  · have hleads := leads.first
    rw [hfirst] at hleads
    cases hleads

/-- The token of a reference is written as one word, which reads as the address it refers to. -/
lemma Leads.read?_of_cell {l : Lexeme} {rest : List Char} (h : Leads l rest)
    (hcell : l.token = .cell a) :
    Address.read? l.chars = some a ∧ l.chars.all Text.isWordChar = true := by
  cases h with
  | number => cases hcell
  | text => cases hcell
  | mark found =>
    dsimp only at hcell
    rw [hcell] at found
    unfold Token.mark? at found
    split at found <;> cases found
  | word start all stop =>
    refine ⟨?_, all_isWordChar_of_name start all⟩
    simp only [Token.ofWord] at hcell
    split at hcell
    case h_1 b hb =>
      cases hcell
      exact hb
    case h_2 => cases hcell

/-- The word of a lost reference becomes the mark. -/
lemma Leads.move_lost {l : Lexeme} {rest : List Char} {ls : List Lexeme} (h : Leads l rest)
    (hls : Lexes rest ls) (hadj : Adjacent (l.token :: ls.map Lexeme.token))
    (hcell : l.token = .cell a) (hlost : shift.address? a = none) :
    shift.move [] (l.chars ++ rest) = lostReference.toList ++ shift.move [] rest := by
  obtain ⟨hread, hall⟩ := h.read?_of_cell hcell
  have hclosed : Closed rest := hls.closed hadj (by rw [hcell]; trivial)
  have hparen : rest.head? ≠ some '(' := fun hhead => (hclosed _ hhead).2.1 rfl
  have hword : shift.word l.chars = lostReference.toList := by
    rw [Shift.address?] at hlost
    rw [Shift.word, hread]
    simp only [hlost]
  rw [Shift.move_append_word hall, List.nil_append,
    Shift.move_of_not_word fun d hd => (hclosed d hd).1, if_neg hparen, hword]

/-- Only a lost reference has no token to move to. -/
lemma Token.exists_offset? {t : Token} (h : ∀ a, t = .cell a → shift.address? a ≠ none) :
    ∃ u, t.offset? shift = some u := by
  cases t with
  | cell a =>
    obtain ⟨b, hb⟩ := Option.ne_none_iff_exists'.mp (h a rfl)
    exact ⟨.cell b, by simp [Token.offset?, hb]⟩
  | _ => exact ⟨_, rfl⟩

/-- After a shift that loses one of its references, a text does not split into the tokens of an
expression. -/
lemma Lexes.not_adjacent_move {cs : List Char} {ls : List Lexeme} (h : Lexes cs ls)
    (hadj : Adjacent (ls.map Lexeme.token)) (ha : .cell a ∈ ls.map Lexeme.token)
    (hlost : shift.address? a = none) {ls' : List Lexeme} (h' : Lexes (shift.move [] cs) ls') :
    ¬Adjacent (ls'.map Lexeme.token) := by
  induction h generalizing ls' with
  | nil => cases ha
  | @blank c cs ls white others ih =>
    rw [Shift.move_nil_blank white, Lexes.blank_iff white] at h'
    exact ih hadj ha h'
  | @lexeme l rest ls leads others ih =>
    by_cases hl : ∃ b, l.token = .cell b ∧ shift.address? b = none
    · obtain ⟨b, hcell, hb⟩ := hl
      rw [leads.move_lost others hadj hcell hb] at h'
      exact absurd h' not_lexes_lostReference
    · obtain ⟨u, hu⟩ := Token.exists_offset? fun b hb hnone => hl ⟨b, hb, hnone⟩
      have hrest : .cell a ∈ ls.map Lexeme.token := by
        rcases List.mem_cons.mp ha with hcell | hrest
        · exact absurd ⟨a, hcell.symm, hlost⟩ hl
        · exact hrest
      rcases leads.move others hadj hu with ⟨t, w, -, hmove, hleads⟩ | ⟨-, hlexes⟩
      · rw [hmove] at h'
        obtain ⟨ls'', rfl, hls''⟩ := hleads.lexes_iff.mp h'
        intro hadj'
        exact ih (List.isChain_cons.mp hadj).2 hrest hls'' (List.isChain_cons.mp hadj').2
      · exact hlexes ls' h'

/-! ## Formulas -/

variable {limits : Limits} {f : String} {e : Expr}

/-- No limits let a formula be read that has lost a reference. -/
lemma Expr.ofText_shifted_ne_ok (he : Expr.ofText limits (body f) = .ok e) (ha : a ∈ e.addresses)
    (hlost : a.offset? shift.columns shift.rows = none) (limits' : Limits) (e' : Expr) :
    Expr.ofText limits' (body (shifted shift f)) ≠ .ok e' := by
  intro he'
  obtain ⟨ls, hls, d, c, hder, -, -⟩ := Expr.ofText_eq_ok_iff_lexes.mp he
  obtain ⟨ls', hls', d', c', hder', -, -⟩ := Expr.ofText_eq_ok_iff_lexes.mp he'
  have hmoves : ¬(shift.columns = 0 ∧ shift.rows = 0) := by
    rintro ⟨hcolumns, hrows⟩
    have hzero : a.offset? 0 0 = some a := Shift.address?_zero a
    rw [hcolumns, hrows, hzero] at hlost
    cases hlost
  have hcell : .cell a ∈ ls.map Lexeme.token := by
    rw [← hder.addresses_eq, List.mem_filterMap] at ha
    obtain ⟨t, ht, htoken⟩ := ha
    cases t <;> cases htoken
    exact ht
  rw [toList_body_shifted hmoves] at hls'
  exact hls.not_adjacent_move hder.adjacent hcell hlost hls' hder'.adjacent

/-- When a shift pushes a reference or a corner of a range of a formula off the grid, the shifted
text fails to evaluate and shows the error, whatever the limits and the cells. -/
theorem evaluate_shifted_of_lost (he : Expr.ofText limits (body f) = .ok e) (ha : a ∈ e.addresses)
    (hlost : a.offset? shift.columns shift.rows = none) (limits' : Limits) (cells : Snapshot) :
    (∃ err, evaluate limits' cells (shifted shift f) = .error err) ∧
      display (evaluate limits' cells (shifted shift f)) = "#ERROR!" := by
  cases hevaluate : evaluate limits' cells (shifted shift f) with
  | error err => exact ⟨⟨err, rfl⟩, rfl⟩
  | ok v =>
    unfold evaluate at hevaluate
    split at hevaluate
    case isTrue =>
      obtain ⟨e', he', -⟩ := bind_eq_ok_iff.mp hevaluate
      exact absurd he' (Expr.ofText_shifted_ne_ok he ha hlost limits' e')
    case isFalse => cases hevaluate

/-- The second corner of a range leaves the grid, behind a literal that looks like a reference and
a number that is taken for one. -/
theorem evaluate_shifted_of_lost_corner :
    let a2 : Address := ⟨⟨2, by decide, by decide⟩, ⟨1, by decide, by decide⟩⟩
    let b3 : Address := ⟨⟨3, by decide, by decide⟩, ⟨2, by decide, by decide⟩⟩
    let e : Expr := .binary .join (.binary .join (.text "A1") (.number (.ofDecimal false ⟨1, 5⟩)))
      (.call "SUM" [.range ⟨b3, a2⟩])
    Expr.ofText {} (body "=\"A1\"&1.E5&SUM(B3:A2)") = .ok e ∧ a2 ∈ e.addresses ∧
      a2.offset? (-1) 0 = none ∧
      shifted ⟨-1, 0⟩ "=\"A1\"&1.E5&SUM(B3:A2)" = "=\"A1\"&1.D5&SUM(A3:#REF!)" ∧
      ∀ limits cells,
        (∃ err, evaluate limits cells "=\"A1\"&1.D5&SUM(A3:#REF!)" = .error err) ∧
        display (evaluate limits cells "=\"A1\"&1.D5&SUM(A3:#REF!)") = "#ERROR!" := by
  intro a2 b3 e
  have he : Expr.ofText {} (body "=\"A1\"&1.E5&SUM(B3:A2)") = .ok e := by decide +kernel
  have ha : a2 ∈ e.addresses := by decide +kernel
  have hlost : a2.offset? (-1) 0 = none := by decide +kernel
  have hshifted : shifted ⟨-1, 0⟩ "=\"A1\"&1.E5&SUM(B3:A2)" =
      "=\"A1\"&1.D5&SUM(A3:#REF!)" := by decide +kernel
  refine ⟨he, ha, hlost, hshifted, fun limits cells => ?_⟩
  rw [← hshifted]
  exact evaluate_shifted_of_lost he ha hlost limits cells

end Formula

end Spreadsheet
