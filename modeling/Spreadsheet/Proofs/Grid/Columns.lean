import Mathlib.Data.Nat.Digits.Defs
import Mathlib.Tactic.Ring
import Spreadsheet.Proofs.Grid.Enumeration
import Spreadsheet.Proofs.Grid.Spelling
import Spreadsheet.Proofs.Outcomes

/-!
# Column names

A column is named by capital letters, which are the digits one to twenty-six of its number in base
twenty-six.  The main result, `Column.names_correspond`, is that this is a bijection between the
columns and the names whose numbers lie on the grid, and that it keeps the order: more letters name
a column further right, and as many letters are ordered by the alphabet.

The names of `k` letters have the numbers from `Column.firstOf k` on up to the first number of one
more letter (`Column.number_bounds`), which gives the order.  A computation in words of 32 bits,
with each product and each sum checked for overflow (`Column.readWord?`), reads the same names: the
number never falls from one letter to the next, so that no step overflows unless the whole number
does.
-/

namespace Spreadsheet

namespace Column

/-! ## Order -/

/-- A name: one or more capital letters. -/
structure IsName (s : String) : Prop where
  ne_empty : s ≠ ""
  letter : ∀ c ∈ s.toList, 'A' ≤ c ∧ c ≤ 'Z'

/-- The digit that a letter is. -/
def digit (c : Char) : Nat :=
  c.toNat - 'A'.toNat + 1

/-- A letter is a digit from one to twenty-six: there is no digit zero. -/
lemma digit_of_letter {c : Char} (h : 'A' ≤ c ∧ c ≤ 'Z') : 1 ≤ digit c ∧ digit c ≤ 26 := by
  have hc : 65 ≤ c.toNat ∧ c.toNat ≤ 90 := h
  have hdigit : digit c = c.toNat - 65 + 1 := rfl
  omega

/-- Capital letters are ordered like the digits they stand for. -/
lemma digit_lt_iff {c d : Char} (hc : 'A' ≤ c ∧ c ≤ 'Z') (hd : 'A' ≤ d ∧ d ≤ 'Z') :
    digit c < digit d ↔ c < d := by
  have hc' : 65 ≤ c.toNat ∧ c.toNat ≤ 90 := hc
  have hd' : 65 ≤ d.toNat ∧ d.toNat ≤ 90 := hd
  change c.toNat - 65 + 1 < d.toNat - 65 + 1 ↔ c.toNat < d.toNat
  omega

/-- Different capital letters stand for different digits. -/
lemma digit_eq_iff {c d : Char} (hc : 'A' ≤ c ∧ c ≤ 'Z') (hd : 'A' ≤ d ∧ d ≤ 'Z') :
    digit c = digit d ↔ c = d := by
  have hc' : 65 ≤ c.toNat ∧ c.toNat ≤ 90 := hc
  have hd' : 65 ≤ d.toNat ∧ d.toNat ≤ 90 := hd
  rw [← Char.toNat_inj]
  change c.toNat - 65 + 1 = d.toNat - 65 + 1 ↔ c.toNat = d.toNat
  omega

/-- A first letter counts once for each sequence of the letters behind it. -/
lemma number_cons (c : Char) (cs : List Char) :
    number (c :: cs) = digit c * 26 ^ cs.length + number cs := by
  rw [number, number, List.reverse_cons, List.map_append, Nat.ofDigits_append, List.length_map,
    List.length_reverse, List.map_singleton, Nat.ofDigits_singleton, digit]
  ring

/-- The number of the first column with `k` letters. -/
def firstOf : Nat → Nat
  | 0 => 0
  | k + 1 => 26 ^ k + firstOf k

/-- Names with fewer letters start at lower numbers. -/
lemma firstOf_le_of_le {j k : Nat} (h : j ≤ k) : firstOf j ≤ firstOf k := by
  induction h with
  | refl => exact Nat.le_refl _
  | step _ ih => exact Nat.le_trans ih (Nat.le_add_left _ _)

/-- The numbers of the names of `k` letters lie between the first one and the first one of one more
letter. -/
lemma number_bounds {cs : List Char} (h : ∀ c ∈ cs, 'A' ≤ c ∧ c ≤ 'Z') :
    firstOf cs.length ≤ number cs ∧ number cs < firstOf (cs.length + 1) := by
  induction cs with
  | nil => exact ⟨Nat.le_refl 0, Nat.one_pos⟩
  | cons c cs ih =>
    rw [List.forall_mem_cons] at h
    obtain ⟨hlow, hhigh⟩ := ih h.2
    obtain ⟨hpos, hle⟩ := digit_of_letter h.1
    rw [number_cons, List.length_cons]
    constructor
    · exact Nat.add_le_add (Nat.le_mul_of_pos_left _ hpos) hlow
    · have hfirst : digit c * 26 ^ cs.length ≤ 26 ^ (cs.length + 1) := by
        rw [Nat.pow_succ, Nat.mul_comm _ 26]
        exact Nat.mul_le_mul_right _ hle
      exact Nat.add_lt_add_of_le_of_lt hfirst hhigh

/-- More letters name a column further right, whichever letters they are. -/
lemma number_lt_of_length_lt {cs ds : List Char} (hcs : ∀ c ∈ cs, 'A' ≤ c ∧ c ≤ 'Z')
    (hds : ∀ d ∈ ds, 'A' ≤ d ∧ d ≤ 'Z') (h : cs.length < ds.length) : number cs < number ds :=
  calc number cs
      < firstOf (cs.length + 1) := (number_bounds hcs).2
    _ ≤ firstOf ds.length := firstOf_le_of_le h
    _ ≤ number ds := (number_bounds hds).1

/-- The first digit decides when the numbers behind it span less than one step of it. -/
lemma mul_add_lt_iff {step low x y a b : Nat} (hx : low ≤ x ∧ x < step + low)
    (hy : low ≤ y ∧ y < step + low) :
    a * step + x < b * step + y ↔ a < b ∨ a = b ∧ x < y := by
  rcases Nat.lt_trichotomy a b with hlt | rfl | hgt
  · have hstep : (a + 1) * step ≤ b * step := Nat.mul_le_mul_right step hlt
    rw [Nat.add_one_mul] at hstep
    omega
  · omega
  · have hstep : (b + 1) * step ≤ a * step := Nat.mul_le_mul_right step hgt
    rw [Nat.add_one_mul] at hstep
    omega

/-- Among names of one length the columns are ordered like the names in the alphabet. -/
lemma number_lt_iff {cs ds : List Char} (hcs : ∀ c ∈ cs, 'A' ≤ c ∧ c ≤ 'Z')
    (hds : ∀ d ∈ ds, 'A' ≤ d ∧ d ≤ 'Z') (h : cs.length = ds.length) :
    number cs < number ds ↔ cs < ds := by
  induction cs generalizing ds with
  | nil =>
    obtain rfl := List.length_eq_zero_iff.mp h.symm
    exact iff_of_false (Nat.lt_irrefl _) (List.lt_irrefl [])
  | cons c cs ih =>
    obtain ⟨d, ds, rfl⟩ := List.exists_cons_of_length_eq_add_one h.symm
    rw [List.forall_mem_cons] at hcs hds
    have hlength : cs.length = ds.length := Nat.succ.inj h
    have hbounds := number_bounds hds.2
    rw [← hlength] at hbounds
    rw [number_cons, number_cons, ← hlength, mul_add_lt_iff (number_bounds hcs.2) hbounds,
      digit_lt_iff hcs.1 hds.1, digit_eq_iff hcs.1 hds.1, ih hcs.2 hds.2 hlength,
      List.cons_lt_cons_iff]

/-! ## Words -/

/-- The product of two words, unless it overflows. -/
def mulWords? (x y : UInt32) : Option UInt32 :=
  if x.toBitVec.umulOverflow y.toBitVec then none else some (x * y)

/-- The sum of two words, unless it overflows. -/
def sumWords? (x y : UInt32) : Option UInt32 :=
  if x.toBitVec.uaddOverflow y.toBitVec then none else some (x + y)

/-- The number with one more letter, in words; nothing for any other character. -/
def extend? (n : UInt32) (c : Char) : Option UInt32 :=
  if c.isUpper then (mulWords? n 26).bind fun product => sumWords? product (c.val - 65 + 1)
  else none

/-- The number that letters name, computed in words from letter to letter. -/
def readWord? (cs : List Char) : Option UInt32 :=
  if cs = [] then none else cs.foldlM extend? 0

/-- The product is exact, and it is missing only when no word holds it. -/
lemma mulWords?_eq_some_iff {x y z : UInt32} :
    mulWords? x y = some z ↔ z.toNat = x.toNat * y.toNat := by
  refine checked_eq_some_iff (fun _ _ => UInt32.toNat_inj.mp)
    (fun h => BitVec.toNat_mul_of_not_umulOverflow h) fun h w hw => ?_
  have hlt := w.toNat_lt
  rw [BitVec.umulOverflow, decide_eq_true_eq, UInt32.toNat_toBitVec, UInt32.toNat_toBitVec] at h
  omega

/-- The sum is exact, and it is missing only when no word holds it. -/
lemma sumWords?_eq_some_iff {x y z : UInt32} :
    sumWords? x y = some z ↔ z.toNat = x.toNat + y.toNat := by
  refine checked_eq_some_iff (fun _ _ => UInt32.toNat_inj.mp)
    (fun h => BitVec.toNat_add_of_not_uaddOverflow h) fun h w hw => ?_
  have hlt := w.toNat_lt
  rw [BitVec.uaddOverflow, decide_eq_true_eq, UInt32.toNat_toBitVec, UInt32.toNat_toBitVec] at h
  omega

/-- The digit of a capital letter, computed in machine words, is its place in the alphabet. -/
lemma toNat_digit {c : Char} (h : c.isUpper = true) : (c.val - 65 + 1).toNat = letterValue c := by
  obtain ⟨hlow, hhigh⟩ := Text.isUpper_iff.mp h
  have hle : (65 : UInt32) ≤ c.val := UInt32.le_iff_toNat_le.mpr hlow
  have hsub : (c.val - 65).toNat = c.toNat - 65 := UInt32.toNat_sub_of_le c.val 65 hle
  rw [UInt32.toNat_add, hsub, UInt32.toNat_one, letterValue]
  omega

/-- One more letter is read when it is a capital letter and a word holds the number. -/
lemma extend?_eq_some_iff {n m : UInt32} {c : Char} : extend? n c = some m ↔
    c.isUpper = true ∧ m.toNat = 26 * n.toNat + letterValue c := by
  have hbase : (26 : UInt32).toNat = 26 := rfl
  unfold extend?
  split
  case isTrue hc =>
    rw [Option.bind_eq_some_iff, and_iff_right hc]
    simp only [mulWords?_eq_some_iff, sumWords?_eq_some_iff, toNat_digit hc, hbase]
    constructor
    · rintro ⟨product, hproduct, hsum⟩
      rw [hsum, hproduct, Nat.mul_comm]
    · intro hm
      have hlt := m.toNat_lt
      have hproduct : (UInt32.ofNat (n.toNat * 26)).toNat = n.toNat * 26 :=
        toNat_ofNat_of_le_gridSide (by rw [gridSide]; omega)
      exact ⟨_, hproduct, by omega⟩
  case isFalse hc => exact iff_of_false (by simp) fun h => hc h.1

/-- The number never falls from one letter to the next. -/
lemma le_foldl (n : Nat) (cs : List Char) :
    n ≤ cs.foldl (fun n c => 26 * n + letterValue c) n := by
  induction cs generalizing n with
  | nil => exact Nat.le_refl n
  | cons c cs ih =>
    have hstep : n ≤ 26 * n + letterValue c := by omega
    exact Nat.le_trans hstep (ih _)

/-- Letters are read when a word holds the number of all of them. -/
lemma foldlM_extend?_eq_some_iff {n m : UInt32} {cs : List Char} :
    cs.foldlM extend? n = some m ↔ cs.all Char.isUpper = true ∧
      m.toNat = cs.foldl (fun n c => 26 * n + letterValue c) n.toNat := by
  induction cs generalizing n with
  | nil => simp [← UInt32.toNat_inj, eq_comm]
  | cons c cs ih =>
    rw [List.foldlM_cons, Option.bind_eq_bind, Option.bind_eq_some_iff, List.all_cons,
      Bool.and_eq_true, List.foldl_cons]
    simp only [extend?_eq_some_iff, ih]
    constructor
    · rintro ⟨k, ⟨hc, hk⟩, hcs, hm⟩
      exact ⟨⟨hc, hcs⟩, hk ▸ hm⟩
    · rintro ⟨⟨hc, hcs⟩, hm⟩
      have hlt := m.toNat_lt
      have hle := le_foldl (26 * n.toNat + letterValue c) cs
      have hk : (UInt32.ofNat (26 * n.toNat + letterValue c)).toNat =
          26 * n.toNat + letterValue c :=
        toNat_ofNat_of_le_gridSide (by rw [gridSide]; omega)
      exact ⟨_, ⟨hc, hk⟩, hcs, hk.symm ▸ hm⟩

/-- One or more letters have a positive number, since no letter stands for zero. -/
lemma number_pos {cs : List Char} (h : ∀ c ∈ cs, 'A' ≤ c ∧ c ≤ 'Z') (hne : cs ≠ []) :
    1 ≤ number cs :=
  calc 1
      = firstOf 1 := rfl
    _ ≤ firstOf cs.length := firstOf_le_of_le (List.length_pos_iff.mpr hne)
    _ ≤ number cs := (number_bounds h).1

/-- Reading in words reads the same letters as the same columns. -/
lemma readWord?_eq (cs : List Char) :
    readWord? cs = (read? cs).map fun column => .ofNat column.val := by
  unfold readWord?
  split
  case isTrue h =>
    subst h
    rfl
  case isFalse hne =>
    ext m
    rw [foldlM_extend?_eq_some_iff, Option.map_eq_some_iff]
    simp only [read?_eq_some_iff]
    constructor
    · rintro ⟨hupper, hm⟩
      rw [UInt32.toNat_zero, ← value, value_eq_number hupper] at hm
      have hpos := number_pos (Address.all_isUpper_iff.mp hupper) hne
      have hlt := m.toNat_lt
      exact ⟨⟨m.toNat, by omega, by rw [gridSide]; omega⟩, ⟨hupper, hm.symm⟩, UInt32.ofNat_toNat⟩
    · rintro ⟨column, ⟨hupper, hnumber⟩, rfl⟩
      rw [UInt32.toNat_zero, ← value, value_eq_number hupper, hnumber]
      exact ⟨hupper, toNat_ofNat_of_le_gridSide column.le_side⟩

/-! ## Names -/

/-- A text is read as a column exactly when it is a name with the number of the column. -/
lemma read?_toList_eq_some_iff {s : String} {column : Index} :
    read? s.toList = some column ↔ IsName s ∧ number s.toList = column.val := by
  rw [read?_eq_some_iff, Address.all_isUpper_iff]
  constructor
  · rintro ⟨hletter, hnumber⟩
    refine ⟨⟨?_, hletter⟩, hnumber⟩
    rintro rfl
    exact absurd hnumber (Nat.ne_of_lt column.pos)
  · rintro ⟨hname, hnumber⟩
    exact ⟨hname.letter, hnumber⟩

/-- The names that are read are those with a number on the grid. -/
lemma exists_read?_iff {s : String} {n : Nat} :
    (∃ column, read? s.toList = some column ∧ column.val = n) ↔
      IsName s ∧ number s.toList = n ∧ n ≤ 2 ^ 32 - 1 := by
  simp only [read?_toList_eq_some_iff]
  constructor
  · rintro ⟨column, ⟨hname, hnumber⟩, rfl⟩
    exact ⟨hname, hnumber, column.le_side⟩
  · rintro ⟨hname, rfl, hle⟩
    have hne : s.toList ≠ [] := fun h => hname.ne_empty (String.toList_eq_nil_iff.mp h)
    exact ⟨⟨number s.toList, number_pos hname.letter hne, hle⟩, ⟨hname, rfl⟩, rfl⟩

/-- A column has one name: no other letters have its number. -/
lemma eq_name_iff {s : String} {column : Index} :
    IsName s ∧ number s.toList = column.val ↔ s = name column := by
  rw [← read?_toList_eq_some_iff, name]
  constructor
  · intro h
    rw [letters_of_read? h, String.ofList_toList]
  · rintro rfl
    rw [String.toList_ofList, read?_letters]

/-- A text is read as a column exactly when it is one or more capital letters and their number in
base twenty-six, with the digits one to twenty-six, is less than `2 ^ 32`; then that is the number
of the column.  Words that are checked for overflow in each step give the same.  Every number from
one to `2 ^ 32 - 1` is the number of a column, which is written as the only name with this number.
More letters name a column further right, and as many letters are ordered by the alphabet. -/
theorem names_correspond :
    (∀ (s : String) (n : Nat), (∃ column, read? s.toList = some column ∧ column.val = n) ↔
      IsName s ∧ number s.toList = n ∧ n ≤ 2 ^ 32 - 1) ∧
    (∀ s : String, readWord? s.toList =
      (read? s.toList).map fun column => .ofNat column.val) ∧
    (∀ n : Nat, 1 ≤ n → n ≤ 2 ^ 32 - 1 → ∃ column, Index.ofNat? n = some column ∧
      ∀ s : String, IsName s ∧ number s.toList = n ↔ s = name column) ∧
    (∀ s t : String, IsName s → IsName t → s.length < t.length →
      number s.toList < number t.toList) ∧
    ∀ s t : String, IsName s → IsName t → s.length = t.length →
      (number s.toList < number t.toList ↔ s < t) := by
  refine ⟨fun s n => exists_read?_iff, fun s => readWord?_eq s.toList, ?_, ?_, ?_⟩
  · intro n hpos hle
    exact ⟨⟨n, hpos, hle⟩, Index.ofNat?_eq_some_iff.mpr rfl, fun s => @eq_name_iff s ⟨n, hpos, hle⟩⟩
  · intro s t hs ht h
    rw [← String.length_toList, ← String.length_toList] at h
    exact number_lt_of_length_lt hs.letter ht.letter h
  · intro s t hs ht h
    rw [← String.length_toList, ← String.length_toList] at h
    exact number_lt_iff hs.letter ht.letter h

/-- The last column of the grid, and names beyond it. -/
theorem names_correspond_lastColumn :
    (∃ column, read? "MWLQKWU".toList = some column ∧ column.val = 4294967295) ∧
      readWord? "MWLQKWV".toList = none ∧
      (∃ column, Index.ofNat? 4294967295 = some column ∧ "MWLQKWU" = name column) ∧
      number "ZZZZZZ".toList < number "MWLQKWU".toList ∧
      number "MWLQKWU".toList < number "MWLQKWV".toList := by
  obtain ⟨hread, hwords, hname, hlonger, halphabet⟩ := names_correspond
  have hisName : ∀ {s : String}, s ≠ "" → s.toList.all Char.isUpper = true → IsName s :=
    fun hne hupper => ⟨hne, Address.all_isUpper_iff.mp hupper⟩
  have hlast : IsName "MWLQKWU" := hisName (by decide) (by decide)
  have hbeyond : IsName "MWLQKWV" := hisName (by decide) (by decide)
  have hshorter : IsName "ZZZZZZ" := hisName (by decide) (by decide)
  refine ⟨(hread _ _).mpr ⟨hlast, by decide +kernel, by decide⟩, ?_, ?_, ?_, ?_⟩
  · rw [hwords]
    decide +kernel
  · obtain ⟨column, hcolumn, heq⟩ := hname 4294967295 (by decide) (by decide)
    exact ⟨column, hcolumn, (heq _).mp ⟨hlast, by decide +kernel⟩⟩
  · exact hlonger _ _ hshorter hlast (by decide)
  · exact (halphabet _ _ hlast hbeyond (by decide)).mpr (by decide)

end Column

end Spreadsheet
