import Mathlib.Algebra.Group.Nat.Even
import Spreadsheet.Proofs.Formula.ShiftScan
import Spreadsheet.Proofs.Grid.Spelling

/-!
# Words and literals of a formula text

A formula text is cut into words, literals with their quotes, and single characters (`CutInto`), in
one way (`cutInto_iff`).  The words are the maximal runs of word characters outside literals: those
behind an even number of quotes (`WordAt`, `wordAt_iff`).

The main result, `shifted_rewrites_words`, is that shifting a text replaces its words one by one and
copies everything else.  A word that reads as an address and has no argument list behind it becomes
the text of the moved address, or the mark of a lost reference, and any other word stays
(`Becomes`).  The scan that shifts a text looks at one character at a time; its equations say what
it does to a whole piece (`CutInto.move`).
-/

namespace Spreadsheet

namespace Formula

/-! ## Pieces -/

/-- A piece of a formula text. -/
inductive Piece where
  /-- A run of word characters outside literals. -/
  | word (letters : List Char)
  /-- A literal, by what stands between its quotes. -/
  | literal (content : List Char)
  /-- A literal without a closing quote, by what follows the opening one. -/
  | openLiteral (content : List Char)
  /-- Any other character outside literals. -/
  | other (c : Char)
deriving DecidableEq

/-- The characters of a piece. -/
def Piece.chars : Piece → List Char
  | .word letters => letters
  | .literal content => '"' :: (content ++ ['"'])
  | .openLiteral content => '"' :: content
  | .other c => [c]

/-- The characters of several pieces in a row. -/
def joinPieces (ps : List Piece) : List Char :=
  ps.flatMap Piece.chars

@[simp] lemma joinPieces_nil : joinPieces [] = [] := rfl

@[simp] lemma joinPieces_cons (p : Piece) (ps : List Piece) :
    joinPieces (p :: ps) = p.chars ++ joinPieces ps :=
  List.flatMap_cons

/-- Two parts of a text are joined to the whole text. -/
lemma joinPieces_append (ps qs : List Piece) :
    joinPieces (ps ++ qs) = joinPieces ps ++ joinPieces qs :=
  List.flatMap_append

/-- The characters are cut into the pieces: words as long as they are, literals from quote to quote,
one that is left open to the end. -/
inductive CutInto : List Char → List Piece → Prop
  | nil : CutInto [] []
  | word {w rest : List Char} {ps : List Piece} (ne : w ≠ []) (all : w.all Text.isWordChar = true)
      (stop : ∀ c ∈ rest.head?, Text.isWordChar c = false) (others : CutInto rest ps) :
      CutInto (w ++ rest) (.word w :: ps)
  | literal {content rest : List Char} {ps : List Piece} (inner : '"' ∉ content)
      (others : CutInto rest ps) :
      CutInto ('"' :: (content ++ '"' :: rest)) (.literal content :: ps)
  | openLiteral {content : List Char} (inner : '"' ∉ content) :
      CutInto ('"' :: content) [.openLiteral content]
  | other {c : Char} {rest : List Char} {ps : List Piece} (apart : Text.isWordChar c = false)
      (unquoted : c ≠ '"') (others : CutInto rest ps) : CutInto (c :: rest) (.other c :: ps)

/-- The pieces with one more word character in front of them. -/
def growWord (c : Char) : List Piece → List Piece
  | .word w :: ps => .word (c :: w) :: ps
  | ps => .word [c] :: ps

/-- The pieces with one more character in the literal that comes first. -/
def growLiteral (c : Char) : List Piece → List Piece
  | .literal content :: ps => .literal (c :: content) :: ps
  | .openLiteral content :: ps => .openLiteral (c :: content) :: ps
  | ps => ps

mutual

/-- The pieces of a text. -/
def pieces : List Char → List Piece
  | [] => []
  | c :: cs =>
    if c = '"' then literalPieces cs
    else if Text.isWordChar c then growWord c (pieces cs)
    else .other c :: pieces cs

/-- The pieces of a text with an opening quote in front of it. -/
def literalPieces : List Char → List Piece
  | [] => [.openLiteral []]
  | c :: cs => if c = '"' then .literal [] :: pieces cs else growLiteral c (literalPieces cs)

end

variable {w cs rest : List Char} {ps : List Piece} {c : Char}

/-- A quote is no word character. -/
lemma not_isWordChar_quote : Text.isWordChar '"' = false := by
  simp [Text.isWordChar, Text.isAlphanum_eq]

lemma ne_quote_of_isWordChar (hc : Text.isWordChar c = true) : c ≠ '"' := by
  rintro rfl
  rw [not_isWordChar_quote] at hc
  cases hc

/-- A word has a first character, which is a word character. -/
lemma exists_cons_of_word (ne : w ≠ []) (all : w.all Text.isWordChar = true) :
    ∃ c v, w = c :: v ∧ Text.isWordChar c = true := by
  obtain ⟨c, v, rfl⟩ := List.exists_cons_of_ne_nil ne
  rw [List.all_cons, Bool.and_eq_true] at all
  exact ⟨c, v, rfl, all.1⟩

/-! ## The one way to cut a text -/

/-- A text that is cut is what its pieces are joined to. -/
lemma CutInto.joinPieces_eq (h : CutInto cs ps) : joinPieces ps = cs := by
  induction h with
  | nil => rfl
  | word _ _ _ _ ih => rw [joinPieces_cons, ih, Piece.chars]
  | literal _ _ ih => simp [ih, Piece.chars]
  | openLiteral _ => simp [Piece.chars]
  | other _ _ _ ih => rw [joinPieces_cons, ih, Piece.chars, List.singleton_append]

/-- A word character starts a word in front of anything else. -/
lemma CutInto.new_word (h : CutInto cs ps) (hc : Text.isWordChar c = true)
    (stop : ∀ d ∈ cs.head?, Text.isWordChar d = false) : CutInto (c :: cs) (.word [c] :: ps) :=
  .word (w := [c]) (List.cons_ne_nil c []) (by simp [hc]) stop h

/-- A word character in front of a text either starts a word or makes the first word longer. -/
lemma CutInto.cons_word (h : CutInto cs ps) (hc : Text.isWordChar c = true) :
    CutInto (c :: cs) (growWord c ps) := by
  cases h with
  | word ne all stop others =>
    exact .word (List.cons_ne_nil c _) (by rw [List.all_cons, hc, all]; rfl) stop others
  | nil => exact CutInto.nil.new_word hc (by simp)
  | literal inner others =>
    exact (CutInto.literal inner others).new_word hc (by simp [not_isWordChar_quote])
  | openLiteral inner =>
    exact (CutInto.openLiteral inner).new_word hc (by simp [not_isWordChar_quote])
  | other apart unquoted others =>
    exact (CutInto.other apart unquoted others).new_word hc (by simp [apart])

/-- A character behind the opening quote adds to the literal. -/
lemma CutInto.cons_literal (h : CutInto ('"' :: cs) ps) (hc : c ≠ '"') :
    CutInto ('"' :: c :: cs) (growLiteral c ps) := by
  generalize hds : '"' :: cs = ds at h
  cases h with
  | nil => cases hds
  | word ne all =>
    obtain ⟨d, v, rfl, hd⟩ := exists_cons_of_word ne all
    exact absurd (List.cons.inj hds).1.symm (ne_quote_of_isWordChar hd)
  | @literal content rest _ inner others =>
    obtain ⟨-, rfl⟩ := List.cons.inj hds
    rw [← List.cons_append]
    exact .literal (by simp [inner, Ne.symm hc]) others
  | openLiteral inner =>
    obtain ⟨-, rfl⟩ := List.cons.inj hds
    exact .openLiteral (by simp [inner, Ne.symm hc])
  | other _ unquoted => exact absurd (List.cons.inj hds).1.symm unquoted

/-- Every text can be cut, and so can every text behind an opening quote. -/
lemma cutInto_pieces_and : ∀ cs : List Char,
    CutInto cs (pieces cs) ∧ CutInto ('"' :: cs) (literalPieces cs)
  | [] => ⟨.nil, .openLiteral List.not_mem_nil⟩
  | c :: cs => by
    obtain ⟨houter, hinner⟩ := cutInto_pieces_and cs
    rw [pieces, literalPieces]
    constructor
    · split
      case isTrue hquote => exact hquote ▸ hinner
      case isFalse hquote =>
        split
        case isTrue hc => exact houter.cons_word hc
        case isFalse hc => exact .other (Bool.eq_false_iff.mpr hc) hquote houter
    · split
      case isTrue hquote => exact hquote ▸ .literal List.not_mem_nil houter
      case isFalse hquote => exact hinner.cons_literal hquote

/-- The pieces that the scan computes are one way to cut a text into words, literals and the rest.
-/
lemma cutInto_pieces (cs : List Char) : CutInto cs (pieces cs) :=
  (cutInto_pieces_and cs).1

/-- What starts with no word character is not cut with a word in front. -/
lemma CutInto.growWord_eq (h : CutInto cs ps) (stop : ∀ d ∈ cs.head?, Text.isWordChar d = false) :
    growWord c ps = .word [c] :: ps := by
  cases h with
  | word ne all =>
    obtain ⟨d, v, rfl, hd⟩ := exists_cons_of_word ne all
    exact absurd hd (Bool.eq_false_iff.mp (stop d rfl))
  | _ => rfl

/-- A word is cut off as one piece in front of what stops it. -/
lemma pieces_word (ne : w ≠ []) (all : w.all Text.isWordChar = true)
    (stop : ∀ c ∈ rest.head?, Text.isWordChar c = false) :
    pieces (w ++ rest) = .word w :: pieces rest := by
  induction w with
  | nil => exact absurd rfl ne
  | cons c w ih =>
    rw [List.all_cons, Bool.and_eq_true] at all
    rw [List.cons_append, pieces, if_neg (ne_quote_of_isWordChar all.1), if_pos all.1]
    by_cases hw : w = []
    · subst hw
      exact (cutInto_pieces rest).growWord_eq stop
    · rw [ih hw all.2]
      rfl

/-- A literal is cut off as one piece, from quote to quote. -/
lemma literalPieces_close {content : List Char} (inner : '"' ∉ content) (rest : List Char) :
    literalPieces (content ++ '"' :: rest) = .literal content :: pieces rest := by
  induction content with
  | nil => rw [List.nil_append, literalPieces, if_pos rfl]
  | cons c content ih =>
    rw [List.mem_cons, not_or] at inner
    rw [List.cons_append, literalPieces, if_neg (Ne.symm inner.1), ih inner.2]
    rfl

/-- A literal without a closing quote goes on to the end of the text. -/
lemma literalPieces_open {content : List Char} (inner : '"' ∉ content) :
    literalPieces content = [.openLiteral content] := by
  induction content with
  | nil => rfl
  | cons c content ih =>
    rw [List.mem_cons, not_or] at inner
    rw [literalPieces, if_neg (Ne.symm inner.1), ih inner.2]
    rfl

/-- A text is cut into its pieces, and into nothing else. -/
lemma cutInto_iff : CutInto cs ps ↔ pieces cs = ps := by
  constructor
  · intro h
    induction h with
    | nil => rfl
    | word ne all stop _ ih => rw [pieces_word ne all stop, ih]
    | literal inner _ ih => rw [pieces, if_pos rfl, literalPieces_close inner, ih]
    | openLiteral inner => rw [pieces, if_pos rfl, literalPieces_open inner]
    | other apart unquoted _ ih =>
      rw [pieces, if_neg unquoted, if_neg (by simp [apart]), ih]
  · rintro rfl
    exact cutInto_pieces cs

/-- No character is lost when a text is cut into its pieces. -/
lemma joinPieces_pieces (cs : List Char) : joinPieces (pieces cs) = cs :=
  (cutInto_pieces cs).joinPieces_eq

/-! ## Where the words are -/

/-- Between the two parts of a text stands a maximal run of word characters, and it lies outside
literals: the number of quotes in front of it is even. -/
structure WordAt (before w after : List Char) : Prop where
  ne_nil : w ≠ []
  all : w.all Text.isWordChar = true
  starts : ∀ c ∈ before.getLast?, Text.isWordChar c = false
  stops : ∀ c ∈ after.head?, Text.isWordChar c = false
  outside : Even (before.count '"')

variable {before after front content : List Char}

/-- There is no quote in a word. -/
lemma count_quote_of_all (all : w.all Text.isWordChar = true) : w.count '"' = 0 := by
  rw [List.count_eq_zero]
  exact fun hmem => ne_quote_of_isWordChar (List.all_eq_true.mp all _ hmem) rfl

/-- More text in front of a word keeps it a word when it neither runs into the word nor leaves a
literal open. -/
lemma WordAt.append (h : WordAt before w after) (hcount : Even (front.count '"'))
    (hfront : before = [] → ∀ c ∈ front.getLast?, Text.isWordChar c = false) :
    WordAt (front ++ before) w after where
  ne_nil := h.ne_nil
  all := h.all
  starts := by
    intro c hc
    by_cases hbefore : before = []
    · subst hbefore
      rw [List.append_nil] at hc
      exact hfront rfl c hc
    · rw [List.getLast?_append_of_ne_nil _ hbefore] at hc
      exact h.starts c hc
  stops := h.stops
  outside := by
    rw [List.count_append]
    exact hcount.add h.outside

/-- With less text in front of it a word still is one, if an even number of quotes is left out. -/
lemma WordAt.of_append (h : WordAt (front ++ before) w after) (hcount : Even (front.count '"')) :
    WordAt before w after where
  ne_nil := h.ne_nil
  all := h.all
  starts := by
    intro c hc
    refine h.starts c ?_
    have hne : before ≠ [] := by
      rintro rfl
      cases hc
    rwa [List.getLast?_append_of_ne_nil _ hne]
  stops := h.stops
  outside := by
    have houtside := h.outside
    rw [List.count_append] at houtside
    exact (Nat.even_add.mp houtside).mp hcount

/-- Behind a quote that nothing closes there is no word. -/
lemma not_wordAt_of_open (inner : '"' ∉ before) : ¬WordAt ('"' :: before) w after := by
  intro h
  have houtside := h.outside
  rw [List.count_cons_self, List.count_eq_zero.mpr inner] at houtside
  exact absurd houtside (by decide)

/-- A word starts with a word character, so nothing stops a word where it starts. -/
lemma WordAt.not_stop (h : WordAt before w after) :
    ¬∀ c ∈ (w ++ after).head?, Text.isWordChar c = false := by
  obtain ⟨d, v, rfl, hd⟩ := exists_cons_of_word h.ne_nil h.all
  exact fun hstop => Bool.eq_false_iff.mp (hstop d rfl) hd

/-- What starts with no word character starts in front of the word. -/
lemma WordAt.exists_cons (h : WordAt before w after) (hc : Text.isWordChar c = false)
    (hcs : c :: rest = front ++ (w ++ after)) :
    ∃ front', front = c :: front' ∧ rest = front' ++ (w ++ after) := by
  cases front with
  | nil =>
    rw [List.nil_append] at hcs
    exact absurd (by rw [← hcs]; simp [hc]) h.not_stop
  | cons b front' =>
    obtain ⟨rfl, hrest⟩ := List.cons.inj hcs
    exact ⟨front', rfl, hrest⟩

/-- A word goes back to the start of its run: if all that stands before it are word characters, then
nothing does. -/
lemma WordAt.eq_nil_of_all (h : WordAt before w after) (all : before.all Text.isWordChar = true) :
    before = [] := by
  by_contra hne
  have hlast := h.starts _ (List.getLast?_eq_some_getLast hne)
  rw [List.all_eq_true.mp all _ (List.getLast_mem hne)] at hlast
  cases hlast

/-- A closed literal has an even number of quotes, so that what follows is outside of literals. -/
lemma even_count_quote_literal (inner : '"' ∉ content) :
    Even ((Piece.literal content).chars.count '"') := by
  have hcount : (Piece.literal content).chars.count '"' = 2 := by
    simp [Piece.chars, List.count_eq_zero.mpr inner]
  rw [hcount]
  exact even_two

/-- A word of a cut text is a maximal run outside literals. -/
lemma CutInto.wordAt {qs rs : List Piece} (h : CutInto cs (qs ++ .word w :: rs)) :
    WordAt (joinPieces qs) w (joinPieces rs) := by
  generalize hps : qs ++ .word w :: rs = ps at h
  induction h generalizing qs with
  | nil => simp at hps
  | openLiteral inner =>
    cases qs with
    | nil => cases hps
    | cons q qs => simp at hps
  | @word v rest ps ne all stop others ih =>
    cases qs with
    | nil =>
      cases hps
      rw [← others.joinPieces_eq] at stop
      exact ⟨ne, all, by simp, stop, by simp⟩
    | cons q qs =>
      obtain ⟨rfl, rfl⟩ := List.cons.inj hps
      refine (ih rfl).append (by simp [Piece.chars, count_quote_of_all all]) fun hnil => ?_
      -- With nothing between them the two words would be one.
      have hrest : rest = w ++ joinPieces rs := by
        rw [← others.joinPieces_eq, List.append_eq, joinPieces_append, hnil, joinPieces_cons]
        rfl
      rw [hrest] at stop
      exact absurd stop (ih rfl).not_stop
  | literal inner others ih =>
    cases qs with
    | nil => cases hps
    | cons q qs =>
      obtain ⟨rfl, rfl⟩ := List.cons.inj hps
      refine (ih rfl).append (even_count_quote_literal inner) fun _ => ?_
      rw [Piece.chars, ← List.cons_append, List.getLast?_concat]
      rintro _ ⟨⟩
      exact not_isWordChar_quote
  | other apart unquoted others ih =>
    cases qs with
    | nil => cases hps
    | cons q qs =>
      obtain ⟨rfl, rfl⟩ := List.cons.inj hps
      exact (ih rfl).append (by simp [Piece.chars, unquoted]) fun _ => by simp [Piece.chars, apart]

/-- A maximal run outside literals is a word of the cut text. -/
lemma CutInto.exists_word (h : CutInto cs ps) (hcs : cs = before ++ (w ++ after))
    (hword : WordAt before w after) : ∃ qs rs, ps = qs ++ .word w :: rs ∧ joinPieces qs = before ∧
      joinPieces rs = after := by
  induction h generalizing before with
  | nil =>
    obtain ⟨-, hw⟩ := List.append_eq_nil_iff.mp hcs.symm
    exact absurd (List.append_eq_nil_iff.mp hw).1 hword.ne_nil
  | @word v rest ps ne all stop others ih =>
    rcases List.append_eq_append_iff.mp hcs with ⟨front, rfl, hrest⟩ | ⟨back, rfl, hback⟩
    · have hinner := hword.of_append (by simp [count_quote_of_all all])
      obtain ⟨qs, rs, rfl, rfl, rfl⟩ := ih hrest hinner
      exact ⟨.word v :: qs, rs, rfl, rfl, rfl⟩
    · -- Both runs start here, and both are maximal.
      rw [List.all_append, Bool.and_eq_true] at all
      obtain rfl := hword.eq_nil_of_all all.1
      have hw : w = back := by
        rw [← Text.takeWhile_run hword.all hword.stops, hback, Text.takeWhile_run all.2 stop]
      subst hw
      rw [← List.append_cancel_left hback.symm, ← others.joinPieces_eq]
      exact ⟨[], ps, rfl, rfl, rfl⟩
  | @literal content rest ps inner others ih =>
    obtain ⟨front, rfl, hfront⟩ := hword.exists_cons not_isWordChar_quote hcs
    rcases List.append_eq_append_iff.mp hfront with ⟨back, rfl, hback⟩ | ⟨back, rfl, -⟩
    · obtain ⟨front, rfl, hrest⟩ := hword.exists_cons not_isWordChar_quote hback
      have happend : '"' :: (content ++ '"' :: front) = (Piece.literal content).chars ++ front := by
        simp [Piece.chars]
      rw [happend] at hword ⊢
      have hinner := hword.of_append (even_count_quote_literal inner)
      obtain ⟨qs, rs, rfl, rfl, rfl⟩ := ih hrest hinner
      exact ⟨.literal content :: qs, rs, rfl, rfl, rfl⟩
    · rw [List.mem_append, not_or] at inner
      exact absurd hword (not_wordAt_of_open inner.1)
  | openLiteral inner =>
    obtain ⟨front, rfl, rfl⟩ := hword.exists_cons not_isWordChar_quote hcs
    rw [List.mem_append, not_or] at inner
    exact absurd hword (not_wordAt_of_open inner.1)
  | @other c rest ps apart unquoted others ih =>
    obtain ⟨front, rfl, hrest⟩ := hword.exists_cons apart hcs
    have hcount : Even ([c].count '"') := by simp [unquoted]
    have hinner : WordAt front w after := hword.of_append hcount
    obtain ⟨qs, rs, rfl, rfl, rfl⟩ := ih hrest hinner
    exact ⟨.other c :: qs, rs, rfl, rfl, rfl⟩

/-- The words of a text are its maximal runs of word characters outside literals. -/
lemma wordAt_iff : WordAt before w after ↔ ∃ qs rs,
    pieces (before ++ w ++ after) = qs ++ .word w :: rs ∧ joinPieces qs = before ∧
      joinPieces rs = after := by
  constructor
  · exact (cutInto_pieces _).exists_word (List.append_assoc _ _ _)
  · rintro ⟨qs, rs, hpieces, rfl, rfl⟩
    exact (cutInto_iff.mpr hpieces).wordAt

/-! ## Moved pieces -/

/-- What a word becomes in front of a character, or at the end of the text. -/
inductive Becomes (shift : Shift) (w : List Char) (next : Option Char) : List Char → Prop
  | moved {a b : Address} (reads : Address.read? w = some a) (free : next ≠ some '(')
      (lands : a.offset? shift.columns shift.rows = some b) : Becomes shift w next b.chars
  | lost {a : Address} (reads : Address.read? w = some a) (free : next ≠ some '(')
      (leaves : a.offset? shift.columns shift.rows = none) :
      Becomes shift w next lostReference.toList
  | kept (other : Address.read? w = none ∨ next = some '(') : Becomes shift w next w

/-- The words among the pieces become the words of the text, and all other pieces are copied. -/
inductive Rewrites (shift : Shift) : List Piece → List Char → Prop
  | nil : Rewrites shift [] []
  | word {w w' cs : List Char} {ps : List Piece}
      (becomes : Becomes shift w (joinPieces ps).head? w') (others : Rewrites shift ps cs) :
      Rewrites shift (.word w :: ps) (w' ++ cs)
  | copied {p : Piece} {cs : List Char} {ps : List Piece} (notWord : ∀ w, p ≠ .word w)
      (others : Rewrites shift ps cs) : Rewrites shift (p :: ps) (p.chars ++ cs)

namespace Shift

/-- A piece after the move, in front of a character or at the end of the text. -/
def movePiece (shift : Shift) (next : Option Char) : Piece → Piece
  | .word w => .word (if next = some '(' then w else shift.word w)
  | p => p

/-- The pieces after the move. -/
def movePieces (shift : Shift) : List Piece → List Piece
  | [] => []
  | p :: ps => shift.movePiece (joinPieces ps).head? p :: shift.movePieces ps

end Shift

variable {shift : Shift}

/-- What becomes of a word is told by the rule for it, which leaves no choice. -/
lemma becomes_iff {next : Option Char} {w' : List Char} :
    Becomes shift w next w' ↔ w' = if next = some '(' then w else shift.word w := by
  have hword : Becomes shift w next w' → w' = if next = some '(' then w else shift.word w := by
    rintro (⟨reads, free, lands⟩ | ⟨reads, free, leaves⟩ | other)
    · rw [if_neg free, Shift.word_of_address reads lands]
    · rw [if_neg free, Shift.word, reads]
      simp only [leaves]
    · split
      case isTrue => rfl
      case isFalse hnext => rw [Shift.word_of_read? (other.resolve_right hnext)]
  refine ⟨hword, ?_⟩
  rintro rfl
  split
  case isTrue hnext => exact .kept (.inr hnext)
  case isFalse hnext =>
    unfold Shift.word
    split
    case h_1 hread => exact .kept (.inl hread)
    case h_2 a hread =>
      split
      case h_1 b hb => exact .moved hread hnext hb
      case h_2 hnone => exact .lost hread hnext hnone

/-- The pieces of a text are rewritten in one way, namely as the shift moves them. -/
lemma rewrites_iff : Rewrites shift ps cs ↔ cs = joinPieces (shift.movePieces ps) := by
  constructor
  · intro h
    induction h with
    | nil => rfl
    | word becomes _ ih =>
      rw [Shift.movePieces, joinPieces_cons, ← ih, becomes_iff.mp becomes]
      rfl
    | @copied p _ _ notWord _ ih =>
      rw [Shift.movePieces, joinPieces_cons, ← ih]
      cases p with
      | word w => exact absurd rfl (notWord w)
      | _ => rfl
  · rintro rfl
    induction ps with
    | nil => exact .nil
    | cons p ps ih =>
      rw [Shift.movePieces, joinPieces_cons]
      cases p with
      | word w => exact .word (becomes_iff.mpr rfl) ih
      | _ => exact .copied (fun _ => Piece.noConfusion) ih

/-- Inside a literal nothing is changed up to its closing quote. -/
lemma literal_append_of_notMem (inner : '"' ∉ content) (rest : List Char) :
    shift.literal (content ++ rest) = content ++ shift.literal rest := by
  induction content with
  | nil => rfl
  | cons c content ih =>
    rw [List.mem_cons, not_or] at inner
    rw [List.cons_append, Shift.literal_other _ (Ne.symm inner.1), ih inner.2, List.cons_append]

/-- However a text is cut into pieces, the scan moves it piece by piece. -/
lemma CutInto.move (h : CutInto cs ps) : shift.move [] cs = joinPieces (shift.movePieces ps) := by
  have hempty : shift.word [] = [] := Shift.word_of_head (by simp)
  induction h with
  | nil => rw [Shift.move_nil, hempty]; rfl
  | word ne all stop others ih =>
    rw [Shift.move_append_word all, List.nil_append, Shift.move_of_not_word stop, ih,
      Shift.movePieces, joinPieces_cons, others.joinPieces_eq]
    rfl
  | literal inner others ih =>
    rw [Shift.move_quote, hempty, List.nil_append, literal_append_of_notMem inner,
      Shift.literal_quote, ih, Shift.movePieces, joinPieces_cons]
    simp [Shift.movePiece, Piece.chars]
  | @openLiteral content inner =>
    have hcontent := @literal_append_of_notMem content shift inner []
    rw [List.append_nil] at hcontent
    rw [Shift.move_quote, hempty, List.nil_append, hcontent]
    simp [Shift.movePieces, Shift.movePiece, Piece.chars, Shift.literal, Shift.finish, Shift.settle,
      hempty]
  | other apart unquoted others ih =>
    rw [Shift.move_nil_other apart unquoted, ih, Shift.movePieces, joinPieces_cons]
    rfl

/-! ## Shifted texts -/

/-- Without a distance every word stays: a word that reads as an address is its text. -/
lemma Shift.word_zero (w : List Char) : Shift.word ⟨0, 0⟩ w = w := by
  cases hread : Address.read? w with
  | none => exact Shift.word_of_read? hread
  | some a =>
    rw [Shift.word_of_address hread (Shift.address?_zero a), Address.read?_eq_some_iff.mp hread]

/-- A shift by nothing changes no piece, since each address is moved onto itself. -/
lemma Shift.movePieces_zero (ps : List Piece) : Shift.movePieces ⟨0, 0⟩ ps = ps := by
  induction ps with
  | nil => rfl
  | cons p ps ih =>
    rw [Shift.movePieces, ih]
    cases p with
    | word w => rw [Shift.movePiece, Shift.word_zero, ite_self]
    | _ => rfl

/-- The text of a shifted formula, also without a distance. -/
lemma toList_shifted (shift : Shift) (f : String) :
    (shifted shift f).toList = joinPieces (shift.movePieces (pieces f.toList)) := by
  unfold shifted
  split
  case isTrue hzero =>
    obtain ⟨columns, rows⟩ := shift
    obtain ⟨rfl, rfl⟩ := hzero
    rw [Shift.movePieces_zero, joinPieces_pieces]
  case isFalse =>
    rw [String.toList_ofList, Shift.apply_eq_move, (cutInto_pieces _).move]

/-- Every text is cut in one way into words, literals from quote to quote, of which the last may be
left open, and single characters; the words are the maximal runs of word characters behind an even
number of quotes.  Shifting the text rewrites the words one by one and copies everything else: a
word that reads as an address and has no opening parenthesis behind it becomes the text of the moved
address, or the mark of a lost reference when the grid has no such address, and any other word
stays. -/
theorem shifted_rewrites_words (shift : Shift) (f : String) :
    (∀ ps, CutInto f.toList ps ↔ ps = pieces f.toList) ∧
    (∀ before w after, WordAt before w after ↔ ∃ qs rs,
      pieces (before ++ w ++ after) = qs ++ .word w :: rs ∧ joinPieces qs = before ∧
        joinPieces rs = after) ∧
    ∀ t : String, t = shifted shift f ↔ Rewrites shift (pieces f.toList) t.toList := by
  refine ⟨fun ps => cutInto_iff.trans eq_comm, fun _ _ _ => wordAt_iff, fun t => ?_⟩
  rw [rewrites_iff, ← toList_shifted, String.toList_inj]

/-- Only one of these words is a reference that stands outside literals. -/
example : shifted ⟨1, 1⟩ "=LOG10(A1)&A01&aB2&B2_&\"A1\"\"B2\"&\"C3" =
    "=LOG10(B2)&A01&aB2&B2_&\"A1\"\"B2\"&\"C3" := by decide +kernel

end Formula

end Spreadsheet
