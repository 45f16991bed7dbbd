import Mathlib.Algebra.Ring.Int.Defs
import Mathlib.Tactic.Common
import Spreadsheet.Proofs.Grid.AddressText
import Spreadsheet.Proofs.Grid.Enumeration
import Spreadsheet.Proofs.Grid.Translation
import Spreadsheet.Proofs.Outcomes

/-!
# Moving addresses by distances in words

A distance is a column and a row difference in words of 64 bits, and an address is moved by whole
numbers.  The main result, `Distance.move?_acts`, is that distances act on the addresses as partial
translations: an address is moved exactly when both sums, as whole numbers, lie on the grid, moving
twice is moving by the sum, moving back undoes a move, and no two addresses are moved to one.

A computation in words alone widens a position to 64 bits, adds there unless a sum overflows, and
narrows the sums to 32 bits again (`Distance.movePosition?`).  It gives the same address for every
distance (`Distance.movePosition?_position`): a sum that overflows lies off the grid, and any other
sum is exact.
-/

namespace Spreadsheet

/-! ## Checked words -/

/-- The sum of two words, unless it overflows. -/
def addWords? (x y : Int64) : Option Int64 :=
  if x.toBitVec.saddOverflow y.toBitVec then none else some (x + y)

/-- The word of 32 bits with the same number, if there is one. -/
def narrow? (x : Int64) : Option UInt32 :=
  if 0 ≤ x ∧ x ≤ 4294967295 then some x.toUInt64.toUInt32 else none

/-- The sum is exact, and it is missing only when no word holds it. -/
lemma addWords?_eq_some_iff {x y z : Int64} :
    addWords? x y = some z ↔ z.toInt = x.toInt + y.toInt := by
  refine checked_eq_some_iff (fun _ _ => Int64.toInt_inj.mp) (fun h => ?_) fun h w hw => ?_
  · rw [← Int64.toInt_toBitVec, Int64.toBitVec_add, BitVec.toInt_add_of_not_saddOverflow h,
      Int64.toInt_toBitVec, Int64.toInt_toBitVec]
  · have hlow := w.le_toInt
    have hhigh := w.toInt_lt
    simp only [BitVec.saddOverflow, Int64.toInt_toBitVec, Bool.or_eq_true,
      decide_eq_true_eq] at h
    omega

/-- A word that is not negative has the same number without a sign. -/
lemma toNat_toUInt64 {x : Int64} (h : 0 ≤ x.toInt) : (x.toUInt64.toNat : Int) = x.toInt := by
  have hlt := x.toBitVec.isLt
  have hcond := BitVec.toInt_eq_toNat_cond x.toBitVec
  rw [Int64.toInt_toBitVec] at hcond
  change (x.toBitVec.toNat : Int) = x.toInt
  split at hcond <;> omega

/-- Widening an unsigned word to a signed one of twice the size keeps the number. -/
lemma toInt_widen (w : UInt32) : w.toUInt64.toInt64.toInt = w.toNat := by
  have hlt := w.toNat_lt
  have hhalf : 2 * w.toUInt64.toBitVec.toNat < 2 ^ 64 := by
    change 2 * w.toUInt64.toNat < 2 ^ 64
    rw [UInt32.toNat_toUInt64]
    omega
  rw [← Int64.toInt_toBitVec, UInt64.toBitVec_toInt64, BitVec.toInt_eq_toNat_of_lt hhalf]
  exact congrArg Nat.cast (UInt32.toNat_toUInt64 w)

/-- Narrowing a signed word gives the unsigned word of the same number, if there is one. -/
lemma narrow?_eq_some_iff {x : Int64} {w : UInt32} :
    narrow? x = some w ↔ (w.toNat : Int) = x.toInt := by
  have hbounds : 0 ≤ x ∧ x ≤ 4294967295 ↔ 0 ≤ x.toInt ∧ x.toInt ≤ 4294967295 := by
    rw [Int64.le_iff_toInt_le, Int64.le_iff_toInt_le]
    rfl
  have hw := w.toNat_lt
  unfold narrow?
  split
  case isTrue h =>
    rw [hbounds] at h
    have hnat := toNat_toUInt64 h.1
    have hword : (x.toUInt64.toUInt32.toNat : Int) = x.toInt := by
      rw [UInt64.toNat_toUInt32]
      omega
    rw [Option.some.injEq, ← hword, Int.natCast_inj, UInt32.toNat_inj, eq_comm]
  case isFalse h =>
    rw [hbounds] at h
    simp only [reduceCtorEq, false_iff]
    omega

/-! ## Distances -/

/-- The whole numbers of columns and rows are those from one to the largest word. -/
lemma exists_index_iff {n : Int} : (∃ i : Index, (i.val : Int) = n) ↔ 1 ≤ n ∧ n ≤ 2 ^ 32 - 1 := by
  constructor
  · rintro ⟨i, rfl⟩
    have hpos := i.pos
    have hside := i.le_side
    rw [gridSide] at hside
    omega
  · rintro ⟨hpos, hside⟩
    have hside' : n.toNat ≤ gridSide := by
      rw [gridSide]
      omega
    exact ⟨⟨n.toNat, by omega, hside'⟩, Int.toNat_of_nonneg (by omega)⟩

/-- A column and a row difference. -/
structure Distance where
  columns : Int64
  rows : Int64
deriving DecidableEq

namespace Distance

/-- The address that lies at a distance from another one, if the grid has it. -/
def move? (d : Distance) (a : Address) : Option Address :=
  a.offset? d.columns.toInt d.rows.toInt

/-- The distance is the sum of two others as whole numbers, so that no sum of words overflows. -/
def IsSum (e d d' : Distance) : Prop :=
  e.columns.toInt = d.columns.toInt + d'.columns.toInt ∧
    e.rows.toInt = d.rows.toInt + d'.rows.toInt

/-- The distance back. -/
def back (d : Distance) : Distance where
  columns := -d.columns
  rows := -d.rows

/-- The distance has a distance back: neither difference is the least word. -/
def Reversible (d : Distance) : Prop :=
  d.columns ≠ Int64.minValue ∧ d.rows ≠ Int64.minValue

/-- The position at a distance from another one, in words: each sum is checked for overflow, each is
narrowed, and a position has no zero. -/
def movePosition? (d : Distance) (p : Position) : Option Position := do
  let column ← addWords? p.column.toUInt64.toInt64 d.columns
  let row ← addWords? p.row.toUInt64.toInt64 d.rows
  let column ← narrow? column
  let row ← narrow? row
  if column = 0 ∨ row = 0 then none else some ⟨row, column⟩

variable {d d' e : Distance} {a b : Address}

/-- An address is moved by whole numbers. -/
lemma move?_eq_some_iff : d.move? a = some b ↔
    (b.column.val : Int) = a.column.val + d.columns.toInt ∧
      (b.row.val : Int) = a.row.val + d.rows.toInt := by
  rw [move?, Address.offset?_eq_some_iff, Index.shift?_eq_some_iff, Index.shift?_eq_some_iff]

/-- An address is moved when both sums lie on the grid. -/
lemma exists_move?_iff : (∃ b, d.move? a = some b) ↔
    (1 ≤ a.column.val + d.columns.toInt ∧ a.column.val + d.columns.toInt ≤ 2 ^ 32 - 1) ∧
      1 ≤ a.row.val + d.rows.toInt ∧ a.row.val + d.rows.toInt ≤ 2 ^ 32 - 1 := by
  simp only [move?_eq_some_iff, ← exists_index_iff]
  constructor
  · rintro ⟨b, hcolumn, hrow⟩
    exact ⟨⟨b.column, hcolumn⟩, b.row, hrow⟩
  · rintro ⟨⟨column, hcolumn⟩, row, hrow⟩
    exact ⟨⟨row, column⟩, hcolumn, hrow⟩

/-- Moving an address twice is moving it once by the sum of both distances. -/
lemma move?_of_isSum (h : d.move? a = some b) (he : e.IsSum d d') : d'.move? b = e.move? a := by
  rw [move?, Address.offset?_offset? h, ← he.1, ← he.2, move?]

/-- Only the least word has no negative in words. Every other one is negated exactly. -/
lemma toInt_neg_of_ne_minValue {x : Int64} (h : x ≠ Int64.minValue) : (-x).toInt = -x.toInt := by
  have hlow := x.le_toInt
  have hhigh := x.toInt_lt
  rw [ne_eq, ← Int64.toInt_inj, Int64.toInt_minValue] at h
  rw [Int64.toInt_neg]
  apply Int.bmod_eq_of_le <;> omega

/-- Moving back by the opposite distance undoes a move. -/
lemma move?_back (hd : d.Reversible) (h : d.move? a = some b) : d.back.move? b = some a := by
  rw [move?_eq_some_iff] at h ⊢
  have hcolumns := toInt_neg_of_ne_minValue hd.1
  have hrows := toInt_neg_of_ne_minValue hd.2
  rw [back, hcolumns, hrows]
  omega

/-- No two addresses are moved to one: a move by a distance is injective where it is defined. -/
lemma eq_of_move?_eq {a' : Address} (h : d.move? a = some b) (h' : d.move? a' = some b) :
    a = a' := by
  rw [move?_eq_some_iff] at h h'
  apply Address.eq_of_val_eq <;> omega

/-! ## Moving in words -/

/-- In words, too, a position is moved by whole numbers. -/
lemma movePosition?_eq_some_iff {p q : Position} : d.movePosition? p = some q ↔
    ((q.column.toNat : Int) = p.column.toNat + d.columns.toInt ∧
      (q.row.toNat : Int) = p.row.toNat + d.rows.toInt) ∧ ¬(q.column = 0 ∨ q.row = 0) := by
  obtain ⟨row, column⟩ := q
  simp only [movePosition?, Option.bind_eq_bind, Option.bind_eq_some_iff, addWords?_eq_some_iff,
    narrow?_eq_some_iff, toInt_widen, Option.ite_none_left_eq_some, Option.some.injEq,
    Position.mk.injEq]
  constructor
  · rintro ⟨wideColumn, hcolumn, wideRow, hrow, column', hcolumn', row', hrow', hzero, rfl, rfl⟩
    exact ⟨⟨hcolumn'.trans hcolumn, hrow'.trans hrow⟩, hzero⟩
  · rintro ⟨⟨hcolumn, hrow⟩, hzero⟩
    exact ⟨_, (toInt_widen column).trans hcolumn, _, (toInt_widen row).trans hrow, column,
      (toInt_widen column).symm, row, (toInt_widen row).symm, hzero, rfl, rfl⟩

/-- Positions without a zero are those of addresses. -/
lemma exists_position_eq {p : Position} (h : ¬(p.column = 0 ∨ p.row = 0)) :
    ∃ a : Address, a.position = p := by
  have hpos : ∀ {w : UInt32}, w ≠ 0 → 0 < w.toNat ∧ w.toNat ≤ gridSide := by
    intro w hw
    rw [ne_eq, ← UInt32.toNat_inj, UInt32.toNat_zero] at hw
    have hlt := w.toNat_lt
    rw [gridSide]
    omega
  obtain ⟨hcolumn, hrow⟩ := not_or.mp h
  refine ⟨⟨⟨_, (hpos hrow).1, (hpos hrow).2⟩, ⟨_, (hpos hcolumn).1, (hpos hcolumn).2⟩⟩, ?_⟩
  rw [Address.position, Position.ofNumbers, UInt32.ofNat_toNat, UInt32.ofNat_toNat]

/-- The position of an address in words has no zero in it. -/
lemma not_zero_position (a : Address) : ¬(a.position.column = 0 ∨ a.position.row = 0) := by
  obtain ⟨hrow, hcolumn⟩ := a.toNat_position
  have hrow_pos := a.row.pos
  have hcolumn_pos := a.column.pos
  rw [← UInt32.toNat_inj, ← UInt32.toNat_inj, hrow, hcolumn, UInt32.toNat_zero]
  omega

/-- Moving in words moves the same addresses to the same places. -/
lemma movePosition?_position (d : Distance) (a : Address) :
    d.movePosition? a.position = (d.move? a).map Address.position := by
  obtain ⟨hrow, hcolumn⟩ := a.toNat_position
  have hmoved : ∀ b : Address, d.movePosition? a.position = some b.position ↔
      d.move? a = some b := by
    intro b
    obtain ⟨hrow', hcolumn'⟩ := b.toNat_position
    rw [movePosition?_eq_some_iff, move?_eq_some_iff, hrow, hcolumn, hrow', hcolumn']
    exact and_iff_left (not_zero_position b)
  ext q
  rw [Option.map_eq_some_iff]
  constructor
  · intro h
    obtain ⟨b, rfl⟩ := exists_position_eq (movePosition?_eq_some_iff.mp h).2
    exact ⟨b, (hmoved b).mp h, rfl⟩
  · rintro ⟨b, hb, rfl⟩
    exact (hmoved b).mpr hb

/-- Distances act on addresses as partial translations.  A distance moves an address to the one
whose column and row are the sums as whole numbers, exactly when both sums are at least one and less
than `2 ^ 32`, and words checked for overflow give the same.  If a distance moves an address, then
moving on by another one is moving by their sum, whenever that does not overflow, and moving back,
whenever there is a distance back, gives the address again; and no distance moves two addresses to
one. -/
theorem move?_acts :
    (∀ (d : Distance) (a b : Address), d.move? a = some b ↔
      (b.column.val : Int) = a.column.val + d.columns.toInt ∧
        (b.row.val : Int) = a.row.val + d.rows.toInt) ∧
    (∀ (d : Distance) (a : Address), (∃ b, d.move? a = some b) ↔
      (1 ≤ a.column.val + d.columns.toInt ∧ a.column.val + d.columns.toInt ≤ 2 ^ 32 - 1) ∧
        1 ≤ a.row.val + d.rows.toInt ∧ a.row.val + d.rows.toInt ≤ 2 ^ 32 - 1) ∧
    (∀ (d : Distance) (a : Address),
      d.movePosition? a.position = (d.move? a).map Address.position) ∧
    (∀ (d d' e : Distance) (a b : Address), d.move? a = some b → e.IsSum d d' →
      d'.move? b = e.move? a) ∧
    (∀ (d : Distance) (a b : Address), d.Reversible → d.move? a = some b →
      d.back.move? b = some a) ∧
    ∀ (d : Distance) (a a' b : Address), d.move? a = some b → d.move? a' = some b → a = a' :=
  ⟨fun _ _ _ => move?_eq_some_iff, fun _ _ => exists_move?_iff, movePosition?_position,
    fun _ _ _ _ _ => move?_of_isSum, fun _ _ _ => move?_back, fun _ _ _ _ => eq_of_move?_eq⟩

/-- From corner to corner of the grid and back, and a distance with a sum that overflows. -/
theorem move?_acts_corners :
    let first : Address := ⟨⟨1, by decide, by decide⟩, ⟨1, by decide, by decide⟩⟩
    let last : Address := ⟨⟨gridSide, by decide, by decide⟩, ⟨gridSide, by decide, by decide⟩⟩
    let across : Distance := ⟨4294967294, 4294967294⟩
    let far : Distance := ⟨Int64.maxValue, 0⟩
    across.move? first = some last ∧ across.back.move? last = some first ∧
      across.back.move? last = (⟨0, 0⟩ : Distance).move? first ∧
      (∀ a, across.move? a = some last → a = first) ∧
      far.move? first = none ∧ far.movePosition? first.position = none := by
  intro first last across far
  obtain ⟨hmove, hexists, hwords, hsum, hback, hinjective⟩ := move?_acts
  have hacross : across.move? first = some last :=
    (hmove _ _ _).mpr ⟨by decide, by decide⟩
  have hfar : far.move? first = none := by
    rw [Option.eq_none_iff_forall_ne_some]
    intro b hb
    exact absurd ((hexists far first).mp ⟨b, hb⟩).1.2 (by decide)
  refine ⟨hacross, hback _ _ _ ⟨by decide, by decide⟩ hacross,
    hsum _ _ _ _ _ hacross ⟨by decide, by decide⟩,
    fun a ha => hinjective _ _ _ _ ha hacross, hfar, ?_⟩
  rw [hwords, hfar, Option.map_none]

end Distance

end Spreadsheet
