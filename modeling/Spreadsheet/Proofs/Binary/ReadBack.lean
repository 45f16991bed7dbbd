import Mathlib.Data.List.TakeWhile
import Mathlib.Tactic.Ring
import Spreadsheet.Cell.Number
import Spreadsheet.Proofs.Grid.AddressText

/-!
# Numbers read back from their texts

The text of a finite magnitude names it: whatever decimal `Binary.Format.shortest` chooses, writing
it positionally, reading the characters and rounding gives the rank again
(`Binary.exists_writes_shortest`), and so the text that shows a number without a sign reads back
(`Binary.exists_writes_display`).  In a cell the text of every finite number is read as the number,
where both zeros become positive zero (`Binary.ofCellText?_display`).

Rounding depends on the value of a ratio alone (`Binary.Format.nearest_mul`) and keeps every
magnitude (`Binary.Format.nearest_units`).  The cutoffs that spare the reader large powers of ten
never change a rank within reach (`Binary.Format.nearestDecimal_eq_iff`), so that decimals can be
compared by `Binary.Format.nearestValue`, which has no cutoffs: it does not change when zeros move
from the digits into the exponent, as they do in normal forms and in positional notation.
-/

namespace Spreadsheet

namespace Binary

/-! ## Rounding -/

/-- Rounding a ratio does not depend on how the ratio is expanded. -/
lemma roundHalfEven_mul {k : Nat} (hk : 0 < k) (num den : Nat) :
    roundHalfEven (k * num) (k * den) = roundHalfEven num den := by
  have hlow : k * num / (k * den) = num / den := Nat.mul_div_mul_left num den hk
  have hrest : 2 * (k * num % (k * den)) = k * (2 * (num % den)) := by
    rw [Nat.mul_mod_mul_left, Nat.mul_left_comm]
  unfold roundHalfEven
  simp only [hlow, hrest, Nat.mul_lt_mul_left hk]

/-- Whole numbers are not rounded: a quotient without a remainder is given as it is. -/
lemma roundHalfEven_mul_self {den : Nat} (hden : 0 < den) (n : Nat) :
    roundHalfEven (den * n) den = n := by
  have hone : roundHalfEven n 1 = n := by
    simp [roundHalfEven, Nat.mod_one]
  have hmul := roundHalfEven_mul hden n 1
  rwa [Nat.mul_one, hone] at hmul

namespace Format

variable (f : Format)

/-- Rounding depends on the value of the ratio alone. -/
lemma nearest_mul {k : Nat} (hk : 0 < k) (num den : Nat) :
    f.nearest (k * num) (k * den) = f.nearest num den := by
  unfold nearest
  dsimp only
  rw [Nat.mul_div_mul_left num den hk, Nat.mul_assoc, roundHalfEven_mul hk]

/-- A magnitude from `2 ^ fractionBits` on has its leading digit where its binade says. -/
lemma log2_units {rank : Nat} (h : f.binade ≤ rank) :
    (f.units rank).log2 = f.fractionBits + (rank / f.binade - 1) := by
  have hlow : f.binade ≤ f.binade + rank % f.binade := Nat.le_add_right _ _
  have hhigh : f.binade + rank % f.binade < f.binade * 2 := by
    have hmod := Nat.mod_lt rank f.binade_pos
    omega
  have hpos : 0 < Nat.pow 2 (rank / f.binade - 1) := Nat.two_pow_pos _
  have hne : (f.binade + rank % f.binade) * Nat.pow 2 (rank / f.binade - 1) ≠ 0 :=
    Nat.mul_ne_zero (Nat.ne_of_gt (Nat.lt_of_lt_of_le f.binade_pos hlow)) (Nat.ne_of_gt hpos)
  rw [units, if_neg (Nat.not_lt.mpr h), Nat.log2_eq_iff hne]
  constructor
  · rw [Nat.pow_add]
    exact Nat.mul_le_mul_right _ hlow
  · rw [Nat.add_right_comm, Nat.pow_add]
    exact Nat.mul_lt_mul_of_pos_right hhigh hpos

/-- The nearest magnitude to a magnitude of the format is this magnitude itself. -/
lemma nearest_units (rank : Nat) : f.nearest (f.units rank) 1 = rank := by
  by_cases h : rank < f.binade
  · have hlog : rank.log2 - f.fractionBits = 0 := by
      by_cases hzero : rank = 0
      · rw [hzero]
        exact Nat.zero_sub _
      · exact Nat.sub_eq_zero_of_le (Nat.le_of_lt ((Nat.log2_lt hzero).mpr h))
    have hround := roundHalfEven_mul_self Nat.one_pos rank
    rw [Nat.one_mul] at hround
    rw [units, if_pos h, nearest, Nat.div_one, hlog, Nat.zero_mul, Nat.zero_add]
    exact hround
  · have hle : f.binade ≤ rank := Nat.not_lt.mp h
    have hpos : 0 < Nat.pow 2 (rank / f.binade - 1) := Nat.two_pow_pos _
    have hquotient : 1 ≤ rank / f.binade := Nat.div_pos hle f.binade_pos
    have hshift : (rank / f.binade - 1) * f.binade + f.binade = rank / f.binade * f.binade := by
      rw [← Nat.succ_mul, Nat.succ_eq_add_one, Nat.sub_add_cancel hquotient]
    rw [nearest, Nat.div_one, f.log2_units hle, Nat.add_sub_cancel_left, Nat.one_mul, units,
      if_neg h, Nat.mul_comm (_ + _), roundHalfEven_mul_self hpos, ← Nat.add_assoc, hshift,
      Nat.mul_comm, Nat.div_add_mod]

/-! ## Rounding decimals -/

/-- The rank nearest to a decimal, with all powers of ten computed. -/
def nearestValue (d : Decimal) : Nat :=
  f.nearest (d.digits * Nat.pow 10 d.exponent.toNat * f.unitsPerOne)
    (Nat.pow 10 (-d.exponent).toNat)

/-- Ratios beyond the largest binade are out of reach. -/
lemma count_le_nearest {num : Nat} (h : Nat.pow 2 (f.fractionBits + f.exponents) ≤ num) :
    f.count ≤ f.nearest num 1 := by
  have hnum : num ≠ 0 := Nat.ne_of_gt (Nat.lt_of_lt_of_le (Nat.two_pow_pos _) h)
  have hlog : f.fractionBits + f.exponents ≤ num.log2 := (Nat.le_log2 hnum).mpr h
  have hshift : f.exponents ≤ num.log2 - f.fractionBits := by omega
  rw [nearest, Nat.div_one, count]
  exact Nat.le_trans (Nat.mul_le_mul_right _ hshift) (Nat.le_add_right _ _)

/-- What is less than half of the smallest unit rounds to zero. -/
lemma nearest_eq_zero {num den : Nat} (h : 2 * num < den) : f.nearest num den = 0 := by
  have hlt : num < den := by omega
  have hshift : Nat.log2 0 - f.fractionBits = 0 := Nat.zero_sub _
  have hround : roundHalfEven num (den * Nat.pow 2 0) = 0 := by
    have hone : den * Nat.pow 2 0 = den := Nat.mul_one den
    rw [hone, roundHalfEven]
    simp only [Nat.div_eq_of_lt hlt, Nat.mod_eq_of_lt hlt, if_pos h]
  rw [nearest, Nat.div_eq_of_lt hlt, hshift, hround, Nat.zero_mul]

/-- Zero is nearest to the rank zero, whatever the exponent is. -/
lemma nearestValue_zero (exponent : Int) : f.nearestValue ⟨0, exponent⟩ = 0 := by
  have hden : 0 < Nat.pow 10 (-exponent).toNat := Nat.pow_pos (by decide)
  unfold nearestValue
  dsimp only
  rw [Nat.zero_mul, Nat.zero_mul]
  exact f.nearest_eq_zero hden

/-- The cutoffs of the reader never change a rank within reach. -/
lemma nearestDecimal_eq_iff {d : Decimal} {rank : Nat} (hrank : rank < f.count) :
    f.nearestDecimal d = rank ↔ f.nearestValue d = rank := by
  obtain ⟨digits, exponent⟩ := d
  by_cases hdigits : digits = 0
  · subst hdigits
    rw [f.nearestValue_zero]
    rfl
  unfold nearestDecimal nearestValue
  dsimp only
  rw [if_neg hdigits]
  cases exponent with
  | ofNat n =>
    dsimp only
    have hone : Nat.pow 10 (-Int.ofNat n).toNat = 1 := by
      rw [Int.ofNat_eq_natCast, Int.toNat_neg_natCast]
    rw [hone]
    split
    case isTrue hcut =>
      have hpow : Nat.pow 2 (f.fractionBits + f.exponents) ≤ Nat.pow 10 n :=
        calc Nat.pow 2 (f.fractionBits + f.exponents)
            ≤ Nat.pow 2 n := Nat.pow_le_pow_right (by decide) hcut
          _ ≤ Nat.pow 10 n := Nat.pow_le_pow_left (by decide) n
      have hnum : Nat.pow 10 n ≤ digits * Nat.pow 10 n * f.unitsPerOne :=
        Nat.le_trans (Nat.le_mul_of_pos_left _ (Nat.pos_of_ne_zero hdigits))
          (Nat.le_mul_of_pos_right _ f.unitsPerOne_pos)
      have hfar := f.count_le_nearest (Nat.le_trans hpow hnum)
      exact ⟨fun h => absurd h (Nat.ne_of_gt hrank),
        fun h => absurd h (Nat.ne_of_gt (Nat.lt_of_lt_of_le hrank hfar))⟩
    case isFalse hcut => rfl
  | negSucc n =>
    dsimp only
    have hone : digits * Nat.pow 10 (Int.negSucc n).toNat = digits := Nat.mul_one digits
    rw [hone]
    split
    case isTrue hcut =>
      have hlog : digits < Nat.pow 2 (digits.log2 + 1) := Nat.lt_log2_self
      have hnum : 2 * (digits * f.unitsPerOne) < Nat.pow 10 (n + 1) :=
        calc 2 * (digits * f.unitsPerOne)
            < 2 * (Nat.pow 2 (digits.log2 + 1) * f.unitsPerOne) :=
              Nat.mul_lt_mul_of_pos_left (Nat.mul_lt_mul_of_pos_right hlog f.unitsPerOne_pos)
                (by decide)
          _ = Nat.pow 2 (digits.log2 + f.scale + 2) := by
              unfold unitsPerOne
              simp only [Nat.pow_eq]
              ring
          _ ≤ Nat.pow 2 (n + 1) := Nat.pow_le_pow_right (by decide) hcut
          _ ≤ Nat.pow 10 (n + 1) := Nat.pow_le_pow_left (by decide) _
      have hzero : f.nearest (digits * f.unitsPerOne) (Nat.pow 10 (-Int.negSucc n).toNat) = 0 :=
        f.nearest_eq_zero hnum
      rw [hzero]
    case isFalse hcut => rfl

/-- A zero moves from the digits into the exponent. -/
lemma nearestValue_ten (digits : Nat) (exponent : Int) :
    f.nearestValue ⟨digits * 10, exponent⟩ = f.nearestValue ⟨digits, exponent + 1⟩ := by
  unfold nearestValue
  dsimp only
  by_cases h : 0 ≤ exponent
  · have hnum : (exponent + 1).toNat = exponent.toNat + 1 := by omega
    have hden : (-(exponent + 1)).toNat = (-exponent).toNat := by omega
    have hpow : digits * 10 * Nat.pow 10 exponent.toNat =
        digits * Nat.pow 10 (exponent.toNat + 1) := by
      simp only [Nat.pow_eq]
      ring
    rw [hnum, hden, hpow]
  · have hnum : (exponent + 1).toNat = exponent.toNat := by omega
    have hden : (-exponent).toNat = (-(exponent + 1)).toNat + 1 := by omega
    have hscaled : digits * 10 * Nat.pow 10 exponent.toNat * f.unitsPerOne =
        10 * (digits * Nat.pow 10 exponent.toNat * f.unitsPerOne) := by ring
    have hpow : Nat.pow 10 ((-(exponent + 1)).toNat + 1) =
        10 * Nat.pow 10 (-(exponent + 1)).toNat := by
      simp only [Nat.pow_eq]
      ring
    rw [hnum, hden, hscaled, hpow, f.nearest_mul (by decide)]

/-- Zeros at the end of the digits may be moved into the exponent without changing the nearest
number. -/
lemma nearestValue_mul_pow (digits k : Nat) (exponent : Int) :
    f.nearestValue ⟨digits * Nat.pow 10 k, exponent⟩ = f.nearestValue ⟨digits, exponent + k⟩ := by
  induction k generalizing exponent with
  | zero => exact congrArg f.nearestValue (by simp)
  | succ k ih =>
    have hpow : digits * Nat.pow 10 (k + 1) = digits * Nat.pow 10 k * 10 := by
      simp only [Nat.pow_eq]
      ring
    have hexponent : exponent + 1 + (k : Int) = exponent + ((k + 1 : Nat) : Int) := by
      push_cast
      ring
    rw [hpow, f.nearestValue_ten, ih, hexponent]

/-- Zeros at the end of the digits may be moved into the exponent: the decimal has the same value,
and so the same nearest rank. -/
lemma nearestValue_strip (digits : Nat) (exponent : Int) :
    f.nearestValue (Decimal.strip digits exponent) = f.nearestValue ⟨digits, exponent⟩ := by
  fun_induction Decimal.strip digits exponent with
  | case1 digits exponent h ih =>
    have hdigits : digits / 10 * 10 = digits := Nat.div_mul_cancel (Nat.dvd_of_mod_eq_zero h.1)
    rw [ih, ← f.nearestValue_ten, hdigits]
  | case2 digits exponent h => rfl

/-! ## The shortest decimal -/

/-- A candidate for printing a rank reads back as this rank, which is what makes it a candidate. -/
lemma nearestDecimal_candidate? {tie : Tie} {rank : Nat} {exponent : Int} {d : Decimal}
    (h : f.candidate? tie rank exponent = some d) : f.nearestDecimal d = rank := by
  have hchoice : ∀ (lowIsNearer : Bool) (low : Nat), f.nearestDecimal ⟨low, exponent⟩ = rank →
      f.nearestDecimal ⟨low + 1, exponent⟩ = rank →
      f.nearestDecimal ⟨if lowIsNearer then low else low + 1, exponent⟩ = rank := by
    intro lowIsNearer low hlow hhigh
    cases lowIsNearer with
    | true => exact hlow
    | false => exact hhigh
  unfold candidate? at h
  dsimp only at h
  split at h
  case h_1 hlow hhigh =>
    cases h
    exact hchoice _ _ (of_decide_eq_true hlow) (of_decide_eq_true hhigh)
  case h_2 hlow hhigh =>
    cases h
    exact of_decide_eq_true hlow
  case h_3 hlow hhigh =>
    cases h
    exact of_decide_eq_true hhigh
  case h_4 => cases h

/-- The whole expansion of a magnitude reads back as the magnitude, since it is exact. -/
lemma nearestValue_expansion (rank : Nat) : f.nearestValue (f.expansion rank) = rank := by
  have hnum : (-(f.scale : Int)).toNat = 0 := Int.toNat_neg_natCast _
  have hden : (- -(f.scale : Int)).toNat = f.scale := by
    rw [Int.neg_neg, Int.toNat_natCast]
  have hpos : 0 < Nat.pow 10 f.scale := Nat.pow_pos (by decide)
  have hscaled : f.units rank * Nat.pow 5 f.scale * Nat.pow 10 0 * f.unitsPerOne =
      Nat.pow 10 f.scale * f.units rank := by
    have hten : Nat.pow 10 f.scale = Nat.pow 5 f.scale * Nat.pow 2 f.scale := Nat.mul_pow 5 2 _
    rw [hten, unitsPerOne]
    simp only [Nat.pow_eq]
    ring
  have hround := f.nearest_mul hpos (f.units rank) 1
  rw [Nat.mul_one, f.nearest_units] at hround
  unfold nearestValue expansion
  dsimp only
  rw [hnum, hden, hscaled]
  exact hround

/-- The shortest decimal of a rank reads back as the rank: it is a candidate that was checked, or
the whole expansion. -/
lemma nearestValue_shortest (tie : Tie) {rank : Nat} (hrank : rank < f.count) :
    f.nearestValue (f.shortest tie rank) = rank := by
  unfold shortest Decimal.normalize
  rw [f.nearestValue_strip]
  cases hfound : (List.range digitLimit).findSome? fun n : Nat =>
      f.candidate? tie rank (leadingExponent (f.units rank) f.unitsPerOne - n) with
  | none => exact f.nearestValue_expansion rank
  | some d =>
    obtain ⟨n, -, hcandidate⟩ := List.exists_of_findSome?_eq_some hfound
    exact (f.nearestDecimal_eq_iff hrank).mp (f.nearestDecimal_candidate? hcandidate)

end Format

end Binary

namespace Decimal

/-! ## Reading decimals -/

/-- The parts that a decimal is read from: digits, an optional point with further digits, at least
one digit in all, and an optional exponent. -/
lemma exists_parts_of_read? {cs : List Char} {d : Decimal} (h : read? cs = some d) :
    ∃ whole fraction tail,
      (cs = whole ++ tail ∧ fraction = [] ∨ cs = whole ++ '.' :: (fraction ++ tail)) ∧
      whole.all Char.isDigit = true ∧ fraction.all Char.isDigit = true ∧ whole ++ fraction ≠ [] ∧
      ∀ mark exponent, tail = mark :: exponent →
        (mark = 'e' ∨ mark = 'E') ∧ ∃ k, readExponent? exponent = some k := by
  have hcs : cs = cs.takeWhile Char.isDigit ++ cs.dropWhile Char.isDigit :=
    List.takeWhile_append_dropWhile.symm
  have hexponent : ∀ {mark : Char} {exponent : List Char} {parts : Int → Decimal},
      (if mark = 'e' ∨ mark = 'E' then (readExponent? exponent).map parts else none) = some d →
        (mark = 'e' ∨ mark = 'E') ∧ ∃ k, readExponent? exponent = some k := by
    intro mark exponent parts h
    obtain ⟨hmark, hread⟩ := Option.ite_none_right_eq_some.mp h
    obtain ⟨k, hk, -⟩ := Option.map_eq_some_iff.mp hread
    exact ⟨hmark, k, hk⟩
  unfold read? at h
  obtain ⟨hne, h⟩ := Option.ite_none_left_eq_some.mp h
  cases hafter : cs.dropWhile Char.isDigit with
  | nil =>
    rw [hafter] at hcs hne
    exact ⟨_, [], [], .inl ⟨hcs, rfl⟩, List.all_takeWhile, rfl, hne, nofun⟩
  | cons c rest =>
    rw [hafter] at hcs hne h
    by_cases hc : c = '.'
    · subst hc
      rw [← @List.takeWhile_append_dropWhile _ Char.isDigit rest] at hcs
      refine ⟨_, _, _, .inr hcs, List.all_takeWhile, List.all_takeWhile, hne, ?_⟩
      intro mark exponent htail
      simp only [htail] at h
      exact hexponent h
    · split at hne
      case h_1 heq => exact absurd (List.cons.inj heq).1 hc
      case h_2 =>
        refine ⟨_, [], _, .inl ⟨hcs, rfl⟩, List.all_takeWhile, rfl, hne, ?_⟩
        rintro mark exponent ⟨⟩
        simp only at h
        exact hexponent h

/-- Whatever writes a decimal starts with a digit, or with a point and a digit. -/
lemma exists_cons_of_read? {cs : List Char} {d : Decimal} (h : read? cs = some d) :
    ∃ c rest, cs = c :: rest ∧
      (c.isDigit = true ∨ c = '.' ∧ ∃ e ∈ rest.head?, e.isDigit = true) := by
  obtain ⟨whole, fraction, tail, hcs, hwhole, hfraction, hne, -⟩ := exists_parts_of_read? h
  cases whole with
  | nil =>
    rw [List.nil_append] at hne
    rcases hcs with ⟨-, rfl⟩ | rfl
    · exact absurd rfl hne
    · obtain ⟨e, es, rfl⟩ := List.exists_cons_of_ne_nil hne
      refine ⟨'.', _, rfl, .inr ⟨rfl, e, rfl, ?_⟩⟩
      exact List.all_eq_true.mp hfraction e List.mem_cons_self
  | cons c whole =>
    have hc : c.isDigit = true := List.all_eq_true.mp hwhole c List.mem_cons_self
    rcases hcs with ⟨rfl, -⟩ | rfl
    · exact ⟨c, _, rfl, .inl hc⟩
    · exact ⟨c, _, rfl, .inl hc⟩

/-! ## Positional notation -/

/-- Digits alone are read as a whole number, with neither decimals nor an exponent. -/
lemma read?_whole {whole : List Char} (hne : whole ≠ []) (hall : whole.all Char.isDigit = true) :
    read? whole = some (ofParts whole [] 0) := by
  have htake : whole.takeWhile Char.isDigit = whole :=
    List.takeWhile_eq_self_iff.mpr (List.all_eq_true.mp hall)
  have hdrop : whole.dropWhile Char.isDigit = [] :=
    List.dropWhile_eq_nil_iff.mpr (List.all_eq_true.mp hall)
  unfold read?
  rw [htake, hdrop]
  simp [hne]

/-- Digits around a point are read as a whole part and a fraction. -/
lemma read?_fraction {whole fraction : List Char} (hne : whole ≠ [])
    (hall : whole.all Char.isDigit = true) (hall' : fraction.all Char.isDigit = true) :
    read? (whole ++ '.' :: fraction) = some (ofParts whole fraction 0) := by
  have hpoint : ∀ c ∈ ('.' :: fraction).head?, c.isDigit = false := by
    rintro c ⟨⟩
    decide
  have htake : fraction.takeWhile Char.isDigit = fraction :=
    List.takeWhile_eq_self_iff.mpr (List.all_eq_true.mp hall')
  have hdrop : fraction.dropWhile Char.isDigit = [] :=
    List.dropWhile_eq_nil_iff.mpr (List.all_eq_true.mp hall')
  unfold read?
  rw [Text.takeWhile_run hall hpoint, Text.dropWhile_run hall hpoint]
  simp [htake, hdrop, hne]

/-- Characters that write a number without sign and exponent, and the decimal that they are read
as: digits, and a point with further digits behind them or nothing. -/
inductive Writes : List Char → Decimal → Prop where
  | whole {digits : List Char} (ne : digits ≠ []) (all : digits.all Char.isDigit = true) :
    Writes digits (ofParts digits [] 0)
  | fraction {digits decimals : List Char} (ne : digits ≠ [])
    (all : digits.all Char.isDigit = true) (all' : decimals.all Char.isDigit = true) :
    Writes (digits ++ '.' :: decimals) (ofParts digits decimals 0)

/-- Characters that write a decimal are read as this decimal. -/
lemma Writes.read? {cs : List Char} {d : Decimal} (h : Writes cs d) : read? cs = some d := by
  cases h with
  | whole ne all => exact read?_whole ne all
  | fraction ne all all' => exact read?_fraction ne all all'

/-- The digits of a number as they are, with `places` of them behind the point. -/
lemma writes_placePoint {digits : List Char} (hne : digits ≠ [])
    (hall : digits.all Char.isDigit = true) (places : Nat) :
    Writes (placePoint digits places) ⟨Nat.ofDigitChars 10 digits 0, -(places : Int)⟩ := by
  unfold placePoint
  split
  case isTrue hplaces =>
    subst hplaces
    have hparts : ofParts digits [] 0 = ⟨Nat.ofDigitChars 10 digits 0, -((0 : Nat) : Int)⟩ := by
      simp [ofParts]
    rw [← hparts]
    exact .whole hne hall
  case isFalse hplaces =>
    split
    case isTrue hlt =>
      have hwhole : digits.take (digits.length - places) ≠ [] := by
        rw [ne_eq, List.take_eq_nil_iff, not_or]
        exact ⟨by omega, hne⟩
      have hlength : (digits.drop (digits.length - places)).length = places := by
        rw [List.length_drop]
        omega
      have hparts : ofParts (digits.take (digits.length - places))
          (digits.drop (digits.length - places)) 0 =
            ⟨Nat.ofDigitChars 10 digits 0, -(places : Int)⟩ := by
        rw [ofParts, List.take_append_drop, hlength, Int.zero_sub]
      rw [← hparts]
      rw [← List.take_append_drop (digits.length - places) digits, List.all_append,
        Bool.and_eq_true] at hall
      exact .fraction hwhole hall.1 hall.2
    case isFalse hlt =>
      have hlength : (List.replicate (places - digits.length) '0' ++ digits).length = places := by
        rw [List.length_append, List.length_replicate]
        omega
      have hvalue : Nat.ofDigitChars 10
          (['0'] ++ (List.replicate (places - digits.length) '0' ++ digits)) 0 =
            Nat.ofDigitChars 10 digits 0 := by
        rw [Nat.ofDigitChars_append, Nat.ofDigitChars_append, Nat.ofDigitChars_replicate_zero]
        rfl
      have hparts : ofParts ['0'] (List.replicate (places - digits.length) '0' ++ digits) 0 =
          ⟨Nat.ofDigitChars 10 digits 0, -(places : Int)⟩ := by
        rw [ofParts, hvalue, hlength, Int.zero_sub]
      have hzeros : (List.replicate (places - digits.length) '0' ++ digits).all Char.isDigit =
          true := by
        rw [List.all_append, hall, Bool.and_true]
        simp
      rw [← hparts]
      exact @Writes.fraction ['0'] _ (List.cons_ne_nil _ _) rfl hzeros

/-- Positional notation writes a decimal of the same value, with zeros for a positive exponent. -/
lemma exists_writes_positional (d : Decimal) :
    d.digits = 0 ∧ Writes d.positional ⟨0, 0⟩ ∨
      ∃ k : Nat, Writes d.positional ⟨d.digits * Nat.pow 10 k, d.exponent - k⟩ := by
  obtain ⟨digits, exponent⟩ := d
  have hne : Nat.toDigits 10 digits ≠ [] := Nat.toDigits_ne_nil
  have hall := all_isDigit_toDigits digits
  unfold positional
  dsimp only
  split
  case isTrue hzero => exact .inl ⟨hzero, .whole (List.cons_ne_nil _ _) rfl⟩
  case isFalse hzero =>
    cases exponent with
    | ofNat n =>
      have hparts : ofParts (Nat.toDigits 10 digits ++ List.replicate n '0') [] 0 =
          ⟨digits * Nat.pow 10 n, Int.ofNat n - n⟩ := by
        have hvalue : Nat.ofDigitChars 10 (Nat.toDigits 10 digits ++ List.replicate n '0') 0 =
            digits * Nat.pow 10 n := by
          rw [Nat.ofDigitChars_append, Nat.ofDigitChars_ten_toDigits,
            Nat.ofDigitChars_replicate_zero, Nat.mul_comm]
          rfl
        rw [ofParts, List.append_nil, hvalue]
        simp
      refine .inr ⟨n, ?_⟩
      rw [← hparts]
      refine .whole (by simp [hne]) ?_
      rw [List.all_append, hall, Bool.true_and]
      simp
    | negSucc n =>
      have hwrites := writes_placePoint hne hall (n + 1)
      rw [Nat.ofDigitChars_ten_toDigits] at hwrites
      have hsame : (⟨digits * Nat.pow 10 0, Int.negSucc n - (0 : Nat)⟩ : Decimal) =
          ⟨digits, -((n + 1 : Nat) : Int)⟩ := by
        simp [Int.negSucc_eq]
      refine .inr ⟨0, ?_⟩
      rw [hsame]
      exact hwrites

end Decimal

namespace Binary

variable {f : Format}

/-- Every finite magnitude is written so that it reads back, as a number of either sign. -/
theorem exists_writes_shortest (tie : Tie) (negative : Bool) (rank : Fin f.count) :
    ∃ d, Decimal.Writes (f.shortest tie rank).positional d ∧
      ofDecimal negative d = .finite negative rank := by
  have hvalue := f.nearestValue_shortest tie rank.isLt
  have hread : ∀ d, f.nearestValue d = f.nearestValue (f.shortest tie rank) →
      ofDecimal negative d = .finite negative rank := by
    intro d hd
    have hnearest : f.nearestDecimal d = rank :=
      (f.nearestDecimal_eq_iff rank.isLt).mpr (hd.trans hvalue)
    unfold ofDecimal
    simp only [hnearest, rank.isLt, dif_pos]
  rcases (f.shortest tie rank).exists_writes_positional with ⟨hzero, hwrites⟩ | ⟨k, hwrites⟩
  · have hshortest : f.shortest tie rank = ⟨0, (f.shortest tie rank).exponent⟩ := by
      rw [← hzero]
    refine ⟨_, hwrites, hread _ ?_⟩
    rw [hshortest, f.nearestValue_zero, f.nearestValue_zero]
  · refine ⟨_, hwrites, hread _ ?_⟩
    rw [f.nearestValue_mul_pow, Int.sub_add_cancel]

/-- The text that shows a number without a sign is read as the number. -/
theorem exists_writes_display (rank : Fin Format.double.count) :
    ∃ d, Decimal.Writes (display (.finite false rank)).toList d ∧
      ofDecimal false d = .finite false rank := by
  unfold display
  split
  case isTrue hzero =>
    have hrank : rank = ⟨0, by decide⟩ := by
      simpa [isZero, place?, Fin.ext_iff] using hzero
    subst hrank
    exact ⟨⟨0, 0⟩, @Decimal.Writes.whole ['0'] (List.cons_ne_nil _ _) rfl, by decide⟩
  case isFalse hzero =>
    unfold text
    dsimp only
    rw [String.toList_ofList]
    exact exists_writes_shortest .upper false rank

end Binary

/-! ## Numbers in cells -/

namespace Decimal

variable {cs : List Char} {d : Decimal}

/-- Nothing in a decimal is white space, so that trimming leaves it as it is. -/
lemma Writes.isBlankChar (h : Writes cs d) : ∀ c ∈ cs, Text.isBlankChar c = false := by
  have hdigits : ∀ {digits : List Char}, digits.all Char.isDigit = true →
      ∀ c ∈ digits, Text.isBlankChar c = false := by
    intro digits hall c hc
    exact Text.isBlankChar_of_isWordChar
      (Text.isWordChar_of_isDigit (List.all_eq_true.mp hall c hc))
  cases h with
  | whole ne all => exact hdigits all
  | fraction ne all all' =>
    intro c hc
    rcases List.mem_append.mp hc with hc | hc
    · exact hdigits all c hc
    · rcases List.mem_cons.mp hc with rfl | hc
      · decide
      · exact hdigits all' c hc

end Decimal

namespace Binary

/-- Positive zero for either zero, and any other number itself. -/
def unsignedZero (n : Binary f) : Binary f :=
  if n.isZero then .zero else n

/-- What writes a decimal is no word. -/
lemma readUnsigned?_of_decimal {cs : List Char} {d : Decimal} (h : Decimal.read? cs = some d)
    (negative : Bool) :
    (readUnsigned? negative cs : Option (Binary f)) = some (ofDecimal negative d) := by
  obtain ⟨b, rest, rfl, hfirst⟩ := Decimal.exists_cons_of_read? h
  have hb : b.isDigit = true ∨ b = '.' := hfirst.imp_right And.left
  have hupper : b.isUpper = false := by
    rcases hb with hdigit | rfl
    · exact Text.isUpper_of_isDigit hdigit
    · decide
  have hlower : b.toLower = b := dif_neg (of_decide_eq_false hupper)
  have hword : ∀ {c : Char} {word : List Char}, ¬(c.isDigit = true ∨ c = '.') →
      (b :: rest).map Char.toLower ≠ c :: word := by
    intro c word hc heq
    obtain rfl : b = c := hlower.symm.trans (List.cons.inj heq).1
    exact hc hb
  have hinf : ¬((b :: rest).map Char.toLower = "inf".toList ∨
      (b :: rest).map Char.toLower = "infinity".toList) :=
    not_or.mpr ⟨hword (by decide), hword (by decide)⟩
  have hnan : (b :: rest).map Char.toLower ≠ "nan".toList := hword (by decide)
  unfold readUnsigned?
  dsimp only
  rw [if_neg hinf, if_neg hnan, h]
  rfl

/-- A decimal in front of which there may be a minus sign. -/
lemma read?_of_decimal {cs : List Char} {d : Decimal} (h : Decimal.read? cs = some d)
    (negative : Bool) : (read? (if negative then '-' :: cs else cs) : Option (Binary f)) =
      some (ofDecimal negative d) := by
  rw [← readUnsigned?_of_decimal h]
  cases negative with
  | true => rfl
  | false =>
    obtain ⟨c, rest, rfl, hfirst⟩ := Decimal.exists_cons_of_read? h
    have hc : c.isDigit = true ∨ c = '.' := hfirst.imp_right And.left
    rw [if_neg Bool.false_ne_true]
    unfold read?
    split
    case h_1 heq =>
      cases heq
      exact absurd hc (by decide)
    case h_2 heq =>
      cases heq
      exact absurd hc (by decide)
    case h_3 => rfl

/-- The text that shows a finite number is read as the number; either zero is shown without a sign.
-/
lemma ofCellText?_display {n : Number} (h : n.isFinite = true) :
    Number.ofCellText? n.display = some n.unsignedZero := by
  unfold display unsignedZero
  split
  case isTrue hzero => decide +kernel
  case isFalse hzero =>
    cases n with
    | nan => cases h
    | infinite negative => cases h
    | finite negative rank =>
      obtain ⟨d, hwrites, hd⟩ := exists_writes_shortest .upper negative rank
      have hblank : ∀ c ∈ (if negative then '-' :: (Format.double.shortest .upper rank).positional
          else (Format.double.shortest .upper rank).positional), Text.isBlankChar c = false := by
        intro c hc
        cases negative with
        | false => exact hwrites.isBlankChar c hc
        | true =>
          rcases List.mem_cons.mp hc with rfl | hc
          · decide
          · exact hwrites.isBlankChar c hc
      unfold text Number.ofCellText?
      dsimp only
      rw [String.toList_ofList, Text.trimChars_eq_self hblank, read?_of_decimal hwrites.read?, hd]
      rfl

end Binary

end Spreadsheet
