import Spreadsheet.Proofs.Formula.Words
import Spreadsheet.Proofs.Grid.Translation

/-!
# Shifts compose

Shifting a formula text by one distance and then by another one is shifting it by their sum, and
shifting it back restores it, as long as the first shift loses no reference (`shifted_shifted`).

The texts of moved references are longer or shorter than before, but they are words again, and what
stands around them starts and ends as before.  So the shifted text is cut into the moved pieces
(`CutInto.movePieces`), each of which moves on from where it is.
-/

namespace Spreadsheet

namespace Formula

/-- Distances add up by columns and by rows. -/
instance : Add Shift := ⟨fun s t => ⟨s.columns + t.columns, s.rows + t.rows⟩⟩

/-- The distance back. -/
instance : Neg Shift := ⟨fun s => ⟨-s.columns, -s.rows⟩⟩

/-- The addresses that a shift moves: those of words without an argument list behind them. -/
def references : List Piece → List Address
  | [] => []
  | .word w :: ps =>
    if (joinPieces ps).head? = some '(' then references ps
    else (Address.read? w).toList ++ references ps
  | _ :: ps => references ps

variable {s t : Shift} {w cs : List Char} {ps : List Piece}

/-! ## Moved words -/

namespace Shift

/-- A word that is not lost stays as it is, or is the text of the moved address. -/
lemma word_cases (hw : ∀ a, Address.read? w = some a → (s.address? a).isSome) :
    Address.read? w = none ∧ s.word w = w ∨
      ∃ a b, Address.read? w = some a ∧ s.address? a = some b ∧ s.word w = b.chars := by
  cases hread : Address.read? w with
  | none => exact .inl ⟨rfl, word_of_read? hread⟩
  | some a =>
    obtain ⟨b, hb⟩ := Option.isSome_iff_exists.mp (hw a hread)
    exact .inr ⟨a, b, rfl, hb, word_of_address hread hb⟩

/-- A word that is no lost reference is moved to a word again, so that it can be moved once more. -/
lemma isWord_word (hw : ∀ a, Address.read? w = some a → (s.address? a).isSome) (ne : w ≠ [])
    (all : w.all Text.isWordChar = true) :
    s.word w ≠ [] ∧ (s.word w).all Text.isWordChar = true := by
  rcases word_cases hw with ⟨-, hword⟩ | ⟨a, b, -, -, hword⟩
  · rw [hword]
    exact ⟨ne, all⟩
  · rw [hword]
    exact ⟨List.append_ne_nil_of_left_ne_nil (Column.letters_ne_nil _) _, b.all_isWordChar_chars⟩

/-- A word that is not lost moves on from where it is. -/
lemma word_word (hw : ∀ a, Address.read? w = some a → (s.address? a).isSome) :
    t.word (s.word w) = (s + t).word w := by
  rcases word_cases hw with ⟨hread, hword⟩ | ⟨a, b, hread, hb, hword⟩
  · rw [hword, word_of_read? hread, word_of_read? hread]
  · have hsum : b.offset? t.columns t.rows = a.offset? (s + t).columns (s + t).rows :=
      Address.offset?_offset? hb _ _
    rw [hword, word, word, Address.read?_chars, hread]
    simp only [hsum]

end Shift

/-! ## Moved texts -/

/-- The first word among the pieces is not lost when no reference is. -/
lemma isSome_of_references (h : ∀ a ∈ references (.word w :: ps), (s.address? a).isSome)
    (hparen : (joinPieces ps).head? ≠ some '(') :
    ∀ a, Address.read? w = some a → (s.address? a).isSome := by
  intro a ha
  refine h a ?_
  rw [references, if_neg hparen, ha]
  exact List.mem_append_left _ (List.mem_singleton_self a)

/-- What holds of all references holds of those behind the first piece. -/
lemma forall_references_of_cons {p : Piece} {P : Address → Prop}
    (h : ∀ a ∈ references (p :: ps), P a) : ∀ a ∈ references ps, P a := by
  intro a ha
  refine h a ?_
  cases p with
  | word w =>
    rw [references]
    split
    · exact ha
    · exact List.mem_append_right _ ha
  | _ => exact ha

/-- What stops a word also stops the moved word: a character that is in no word stays in front. -/
lemma CutInto.head?_movePieces {rest : List Char} (others : CutInto rest ps)
    (stop : ∀ c ∈ rest.head?, Text.isWordChar c = false) :
    (joinPieces (s.movePieces ps)).head? = rest.head? := by
  rw [← others.move, Shift.head?_move_of_not_word stop]

/-- A text without lost references is cut into the moved pieces. -/
lemma CutInto.movePieces (h : CutInto cs ps) (hs : ∀ a ∈ references ps, (s.address? a).isSome) :
    CutInto (joinPieces (s.movePieces ps)) (s.movePieces ps) := by
  induction h with
  | nil => exact .nil
  | @word w rest ps ne all stop others ih =>
    have hrest := ih (forall_references_of_cons hs)
    rw [Shift.movePieces, joinPieces_cons]
    have hstop : ∀ c ∈ (joinPieces (s.movePieces ps)).head?, Text.isWordChar c = false := by
      rwa [others.head?_movePieces stop]
    by_cases hparen : (joinPieces ps).head? = some '('
    · rw [Shift.movePiece, if_pos hparen]
      exact .word ne all hstop hrest
    · obtain ⟨ne', all'⟩ := Shift.isWord_word (isSome_of_references hs hparen) ne all
      rw [Shift.movePiece, if_neg hparen]
      exact .word ne' all' hstop hrest
  | literal inner others ih =>
    have hrest := ih (forall_references_of_cons hs)
    simpa [Shift.movePieces, Shift.movePiece, Piece.chars] using CutInto.literal inner hrest
  | openLiteral inner =>
    simpa [Shift.movePieces, Shift.movePiece, Piece.chars] using CutInto.openLiteral inner
  | other apart unquoted others ih =>
    exact .other apart unquoted (ih (forall_references_of_cons hs))

/-- Pieces that are moved twice, with no reference lost, are moved by the sum of both shifts. -/
lemma CutInto.movePieces_movePieces (h : CutInto cs ps)
    (hs : ∀ a ∈ references ps, (s.address? a).isSome) :
    t.movePieces (s.movePieces ps) = (s + t).movePieces ps := by
  induction h with
  | nil => rfl
  | @word w rest ps ne all stop others ih =>
    have hhead : (joinPieces (s.movePieces ps)).head? = (joinPieces ps).head? := by
      rw [others.head?_movePieces stop, others.joinPieces_eq]
    simp only [Shift.movePieces, Shift.movePiece, hhead, ih (forall_references_of_cons hs)]
    split
    case isTrue => rfl
    case isFalse hparen => rw [Shift.word_word (isSome_of_references hs hparen)]
  | literal inner others ih | other apart unquoted others ih =>
    simp only [Shift.movePieces, Shift.movePiece, ih (forall_references_of_cons hs)]
  | openLiteral inner => rfl

/-- When a shift loses no reference of a text, a further shift of its outcome is a shift by both
distances together, and the shift back restores the text. -/
theorem shifted_shifted (s : Shift) (f : String)
    (h : ∀ a ∈ references (pieces f.toList), (a.offset? s.columns s.rows).isSome) :
    (∀ t : Shift, shifted t (shifted s f) = shifted (s + t) f) ∧
      shifted (-s) (shifted s f) = f := by
  have hsum : ∀ t : Shift, shifted t (shifted s f) = shifted (s + t) f := by
    intro t
    have hcut := (cutInto_pieces f.toList).movePieces h
    rw [← String.toList_inj, toList_shifted, toList_shifted, toList_shifted, cutInto_iff.mp hcut,
      (cutInto_pieces f.toList).movePieces_movePieces h]
  refine ⟨hsum, ?_⟩
  have hzero : (s + -s).columns = 0 ∧ (s + -s).rows = 0 :=
    ⟨Int.add_right_neg s.columns, Int.add_right_neg s.rows⟩
  rw [hsum, shifted, if_pos hzero]

/-- References grow and shrink here, the text ends in a literal that is left open, and the second
shift pushes a reference off the grid. -/
theorem shifted_shifted_openLiteral :
    let f := "=A9+SUM(Z9:$C3)&\"A1\"&LOG10(B2)&\"B2+A1"
    (∀ a ∈ references (pieces f.toList), (a.offset? 1 1).isSome) ∧
      shifted ⟨-1, -3⟩ (shifted ⟨1, 1⟩ f) = shifted ⟨0, -2⟩ f ∧
      shifted ⟨0, -2⟩ f = "=A7+SUM(Z7:$C1)&\"A1\"&LOG10(#REF!)&\"B2+A1" ∧
      shifted ⟨-1, -1⟩ (shifted ⟨1, 1⟩ f) = f := by
  intro f
  have h : ∀ a ∈ references (pieces f.toList), (a.offset? 1 1).isSome := by decide +kernel
  obtain ⟨hsum, hback⟩ := shifted_shifted ⟨1, 1⟩ f h
  exact ⟨h, hsum ⟨-1, -3⟩, by decide +kernel, hback⟩

end Formula

end Spreadsheet
