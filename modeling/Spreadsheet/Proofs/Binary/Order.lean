import Mathlib.Order.Monotone.Basic
import Mathlib.Order.RelClasses
import Mathlib.Tactic.Ring
import Spreadsheet.Binary.Basic

/-!
# The order by value

Numbers are compared by their signed ranks, and this is a comparison by exact values: a larger rank
is a larger magnitude (`Binary.Format.units_strictMono`).  So the larger of two finite numbers is
the one with the larger value, and so with the smaller one (`Binary.Picks`).
-/

namespace Spreadsheet

namespace Binary

/-! ## Magnitudes -/

namespace Format

variable (f : Format)

/-- The magnitude of the place `m` in the binade `q`. The lowest binade has no leading bit, and each
one from the third on doubles the step of the one before. -/
lemma units_of_place {q m : Nat} (hm : m < f.binade) :
    f.units (f.binade * q + m) = if q = 0 then m else (f.binade + m) * 2 ^ (q - 1) := by
  have hdiv : (f.binade * q + m) / f.binade = q := by
    rw [Nat.mul_add_div f.binade_pos, Nat.div_eq_of_lt hm, Nat.add_zero]
  have hmod : (f.binade * q + m) % f.binade = m := by
    rw [Nat.mul_add_mod, Nat.mod_eq_of_lt hm]
  unfold units
  rw [hdiv, hmod]
  cases q with
  | zero => simp [hm]
  | succ q =>
    have hle : ¬f.binade * (q + 1) + m < f.binade := by
      rw [Nat.mul_succ]
      omega
    rw [if_neg hle, if_neg (Nat.succ_ne_zero q)]
    rfl

/-- The next rank has the next larger magnitude, also where one binade ends and another one begins.
-/
lemma units_lt_units_succ (rank : Nat) : f.units rank < f.units (rank + 1) := by
  have hpos := f.binade_pos
  have hm : rank % f.binade < f.binade := Nat.mod_lt rank hpos
  have hrank : f.binade * (rank / f.binade) + rank % f.binade = rank := Nat.div_add_mod ..
  generalize rank / f.binade = q at hrank
  generalize rank % f.binade = m at hm hrank
  subst hrank
  rw [f.units_of_place hm]
  by_cases hnext : m + 1 < f.binade
  · -- The next rank is in the same binade.
    rw [Nat.add_assoc, f.units_of_place hnext]
    split
    · exact Nat.lt_succ_self m
    · exact Nat.mul_lt_mul_of_pos_right (by omega) (Nat.two_pow_pos _)
  · -- The next rank is the first one of the next binade, with steps twice as wide.
    have hlast : f.binade * q + m + 1 = f.binade * (q + 1) + 0 := by
      rw [Nat.mul_succ]
      omega
    rw [hlast, f.units_of_place hpos, if_neg (Nat.succ_ne_zero q), Nat.add_zero,
      Nat.add_sub_cancel]
    cases q with
    | zero => simpa using hm
    | succ q =>
      have hdouble : f.binade * 2 ^ (q + 1) = (f.binade + f.binade) * 2 ^ q := by ring
      rw [if_neg (Nat.succ_ne_zero q), Nat.add_sub_cancel, hdouble]
      exact Nat.mul_lt_mul_of_pos_right (by omega) (Nat.two_pow_pos q)

/-- A larger rank is a larger magnitude. Hence ranks may be compared in place of magnitudes. -/
lemma units_strictMono : StrictMono f.units :=
  strictMono_nat_of_lt_succ f.units_lt_units_succ

end Format

/-! ## Values -/

variable {f : Format} {x y : Binary f} {u v : Int}

/-- The value of a finite number, in smallest units. -/
def value? : Binary f → Option Int
  | .finite negative rank => some (signedUnits negative rank)
  | _ => none

/-- The values of two finite numbers are related. -/
def ByValue (rel : Int → Int → Prop) (x y : Binary f) : Prop :=
  ∃ u v, x.value? = some u ∧ y.value? = some v ∧ rel u v

/-- A finite number has an exact value. -/
lemma exists_value?_of_isFinite (h : x.isFinite = true) : ∃ u, x.value? = some u := by
  cases x with
  | finite negative rank => exact ⟨_, rfl⟩
  | infinite | nan => cases h

/-- Only finite numbers have an exact value: neither an infinity nor a missing number is one. -/
lemma isFinite_of_value? (h : x.value? = some u) : x.isFinite = true := by
  cases x with
  | finite negative rank => rfl
  | infinite | nan => cases h

/-- Signed ranks are ordered like signed magnitudes. -/
lemma signedUnits_lt_iff (s t : Bool) (i j : Fin f.count) :
    signedUnits s i < signedUnits t j ↔
      (if s then -(i.val : Int) else i.val) < if t then -(j.val : Int) else j.val := by
  have hlt : ∀ i j : Nat, f.units i < f.units j ↔ i < j := fun _ _ => f.units_strictMono.lt_iff_lt
  have hij := hlt i j
  have hji := hlt j i
  have hi := hlt 0 i
  have hj := hlt 0 j
  rw [f.units_zero] at hi hj
  unfold signedUnits
  cases s <;> cases t <;> simp only [Bool.false_eq_true, if_false, if_true] <;> omega

/-- Finite numbers are compared by their exact values, so that the two zeros are equal here. -/
lemma less_iff (hx : x.value? = some u) (hy : y.value? = some v) :
    x.less y = true ↔ u < v := by
  cases x with
  | infinite | nan => cases hx
  | finite s i =>
    cases y with
    | infinite | nan => cases hy
    | finite t j =>
      obtain rfl := Option.some.inj hx
      obtain rfl := Option.some.inj hy
      rw [signedUnits_lt_iff, less, compare?, beq_iff_eq]
      simp only [place?, Option.some.injEq]
      exact Int.compare_eq_lt

section ByValue

variable {rel : Int → Int → Prop} {z : Binary f}

/-- A finite number is related to itself by value. -/
lemma ByValue.refl [Std.Refl rel] (h : x.isFinite = true) : x.ByValue rel x := by
  obtain ⟨u, hu⟩ := exists_value?_of_isFinite h
  exact ⟨u, u, hu, hu, refl_of rel u⟩

/-- Relations by value are chained, since a number has one value only. -/
lemma ByValue.trans [IsTrans Int rel] (h : x.ByValue rel y) (h' : y.ByValue rel z) :
    x.ByValue rel z := by
  obtain ⟨u, v, hu, hv, huv⟩ := h
  obtain ⟨v', w, hv', hw, hvw⟩ := h'
  obtain rfl := Option.some.inj (hv.symm.trans hv')
  exact ⟨u, w, hu, hw, trans_of rel huv hvw⟩

end ByValue

/-! ## The larger and the smaller number -/

/-- Of two finite numbers one is picked, and the other one is related to it by value. -/
def Picks (rel : Int → Int → Prop) (better : Binary f → Binary f → Binary f) : Prop :=
  ∀ x y, x.isFinite = true → y.isFinite = true →
    better x y = x ∧ y.ByValue rel x ∨ better x y = y ∧ x.ByValue rel y

/-- The larger one of two finite numbers is one of them, and not less than the other one. -/
lemma picks_maximum : Picks (· ≤ ·) (maximum (f := f)) := by
  intro x y hx hy
  obtain ⟨u, hu⟩ := exists_value?_of_isFinite hx
  obtain ⟨v, hv⟩ := exists_value?_of_isFinite hy
  have hmaximum : maximum x y = if x.less y then y else x := by
    cases x with
    | infinite | nan => cases hx
    | finite s i =>
      cases y with
      | infinite | nan => cases hy
      | finite t j => rfl
  rw [hmaximum]
  split
  case isTrue h => exact .inr ⟨rfl, u, v, hu, hv, ((less_iff hu hv).mp h).le⟩
  case isFalse h => exact .inl ⟨rfl, v, u, hv, hu, not_lt.mp (mt (less_iff hu hv).mpr h)⟩

/-- The smaller one of two finite numbers is one of them, and not more than the other one. -/
lemma picks_minimum : Picks (· ≥ ·) (minimum (f := f)) := by
  intro x y hx hy
  obtain ⟨u, hu⟩ := exists_value?_of_isFinite hx
  obtain ⟨v, hv⟩ := exists_value?_of_isFinite hy
  have hminimum : minimum x y = if y.less x then y else x := by
    cases x with
    | infinite | nan => cases hx
    | finite s i =>
      cases y with
      | infinite | nan => cases hy
      | finite t j => rfl
  rw [hminimum]
  split
  case isTrue h => exact .inr ⟨rfl, u, v, hu, hv, ((less_iff hv hu).mp h).le⟩
  case isFalse h => exact .inl ⟨rfl, v, u, hv, hu, not_lt.mp (mt (less_iff hv hu).mpr h)⟩

end Binary

end Spreadsheet
