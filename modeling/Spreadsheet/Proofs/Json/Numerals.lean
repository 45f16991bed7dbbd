import Mathlib.Data.List.Basic
import Spreadsheet.Json.Number
import Spreadsheet.Proofs.Binary.ReadBack
import Spreadsheet.Proofs.Json.Lexing

/-!
# Written numbers are numbers of JSON

Each of the notations for a decimal, with zeros behind its digits, with the point among or before
its digits, and with an exponent, is an unsigned number of JSON: whole digits without a leading
zero, digits behind a point, and an exponent are put together by `isUnsignedNumber_append`,
`isFraction_point` and `isExponent_exponentChars`.

Main statement: a finite binary number is written as a number of JSON (`isNumber_ofBinary`).
-/

namespace Spreadsheet

namespace Json

open Binary (Format)

/-! ## Parts of a number -/

/-- Digits are what a number may hold as its digits if there is at least one of them. -/
lemma isDigits_of_all {cs : List Char} (hne : cs ≠ []) (hall : cs.all Char.isDigit = true) :
    isDigits cs = true := by
  rw [isDigits, hall, Bool.and_true, Bool.not_eq_true', List.isEmpty_eq_false_iff]
  exact hne

/-- A decimal numeral consists of digits, also the one of zero. -/
lemma isDigits_toDigits (n : Nat) : isDigits (Nat.toDigits 10 n) = true :=
  isDigits_of_all Nat.toDigits_ne_nil (all_isDigit_toDigits n)

/-- A written exponent has a sign, so its mark is followed by no digit. -/
lemma isExponent_exponentChars (power : Int) : isExponent ('e' :: exponentChars power) = true := by
  rw [exponentChars]
  split
  · exact isDigits_toDigits power.natAbs
  · exact isDigits_toDigits power.natAbs

/-- An exponent starts with its mark, in small or capital form, and so with no digit. -/
lemma head?_isExponent {cs : List Char} (h : isExponent cs = true) :
    ∀ c ∈ cs.head?, c = 'e' ∨ c = 'E' := by
  intro c hc
  rcases eq_nil_or_exists_of_isExponent h with rfl | ⟨mark, sign, ds, rfl, hmark, -, -⟩
  · cases hc
  · cases hc
    exact hmark

/-- No digit starts what may follow the whole digits of a number. -/
lemma head?_isFraction {cs : List Char} (h : isFraction cs = true) :
    ∀ c ∈ cs.head?, c.isDigit = false := by
  intro c hc
  unfold isFraction at h
  split at h
  case h_1 =>
    cases hc
    rfl
  case h_2 => rcases head?_isExponent h c hc with rfl | rfl <;> rfl

/-- A point with digits behind it, and what may follow them. -/
lemma isFraction_point {decimals rest : List Char} (hne : decimals ≠ [])
    (hall : decimals.all Char.isDigit = true) (hrest : isExponent rest = true) :
    isFraction ('.' :: (decimals ++ rest)) = true := by
  have hstop : ∀ c ∈ rest.head?, c.isDigit = false := by
    intro c hc
    rcases head?_isExponent hrest c hc with rfl | rfl <;> rfl
  rw [isFraction, Text.takeWhile_run hall hstop, Text.dropWhile_run hall hstop, hrest,
    isDigits_of_all hne hall]
  rfl

/-- A point with one or more digits behind it is a fraction. -/
lemma isFraction_decimals {decimals : List Char} (hne : decimals ≠ [])
    (hall : decimals.all Char.isDigit = true) : isFraction ('.' :: decimals) = true := by
  have hfraction := @isFraction_point _ [] hne hall rfl
  rwa [List.append_nil] at hfraction

/-- Whole digits without a leading zero, and what may follow them. -/
lemma isUnsignedNumber_append {whole rest : List Char} (hne : whole ≠ [])
    (hlead : whole.head? ≠ some '0') (hall : whole.all Char.isDigit = true)
    (hrest : isFraction rest = true) : isUnsignedNumber (whole ++ rest) = true := by
  have hstop := head?_isFraction hrest
  unfold isUnsignedNumber
  split
  case h_1 cs heq =>
    rw [List.append_eq_cons_iff] at heq
    rcases heq with ⟨hnil, -⟩ | ⟨ds, rfl, -⟩
    · exact absurd hnil hne
    · exact absurd rfl hlead
  case h_2 =>
    rw [Text.takeWhile_run hall hstop, Text.dropWhile_run hall hstop, hrest,
      isDigits_of_all hne hall]
    rfl

/-! ## Decimals -/

/-- The digits of a number with some of them behind the point. -/
lemma isUnsignedNumber_placePoint {n places : Nat} (hn : 0 < n) (hplaces : 0 < places) :
    isUnsignedNumber (Decimal.placePoint (Nat.toDigits 10 n) places) = true := by
  have hne : Nat.toDigits 10 n ≠ [] := Nat.toDigits_ne_nil
  have hlead := head?_toDigits_ne_zero hn
  have hall := all_isDigit_toDigits n
  generalize Nat.toDigits 10 n = digits at hne hlead hall
  rw [Decimal.placePoint, if_neg (by omega)]
  split
  case isTrue hlt =>
    have hwhole : digits.take (digits.length - places) ≠ [] := by
      rw [ne_eq, List.take_eq_nil_iff, not_or]
      exact ⟨by omega, hne⟩
    have hdecimals : digits.drop (digits.length - places) ≠ [] := by
      rw [ne_eq, List.drop_eq_nil_iff]
      omega
    rw [← List.take_append_drop (digits.length - places) digits, List.all_append,
      Bool.and_eq_true] at hall
    refine isUnsignedNumber_append hwhole ?_ hall.1 ?_
    · rw [List.head?_take, if_neg (by omega)]
      exact hlead
    · exact isFraction_decimals hdecimals hall.2
  case isFalse hlt =>
    have hzeros : (List.replicate (places - digits.length) '0' ++ digits).all Char.isDigit =
        true := by
      rw [List.all_append, hall, Bool.and_true]
      simp
    exact isFraction_decimals (by simp [hne]) hzeros

/-- Whatever notation is chosen, a decimal is written as an unsigned number. -/
lemma isUnsignedNumber_decimalChars (d : Decimal) : isUnsignedNumber (decimalChars d) = true := by
  unfold decimalChars
  dsimp only
  split
  case isTrue => rfl
  case isFalse hzero =>
    have hpos : 0 < d.digits := Nat.pos_of_ne_zero hzero
    have hne : Nat.toDigits 10 d.digits ≠ [] := Nat.toDigits_ne_nil
    have hlead := head?_toDigits_ne_zero hpos
    have hall := all_isDigit_toDigits d.digits
    split
    case isTrue =>
      refine isUnsignedNumber_append (by simp [hne]) ?_ ?_ rfl
      · rwa [List.head?_append_of_ne_nil _ hne]
      · rw [List.all_append, hall, Bool.true_and]
        simp
    case isFalse hwhole =>
      split
      case isTrue hpositional =>
        obtain ⟨digits, exponent⟩ := d
        cases exponent with
        | ofNat n => exact absurd ⟨Int.natCast_nonneg n, hpositional.2⟩ hwhole
        | negSucc n =>
          rw [Decimal.positional, if_neg hzero]
          exact isUnsignedNumber_placePoint hpos n.succ_pos
      case isFalse =>
        generalize (Nat.toDigits 10 d.digits).length + d.exponent - 1 = power
        generalize Nat.toDigits 10 d.digits = digits at hne hlead hall
        -- The first digit stands in front of the point, which only further digits call for.
        match digits with
        | [] => exact absurd rfl hne
        | [digit] =>
          exact isUnsignedNumber_append hne hlead hall (isExponent_exponentChars power)
        | digit :: next :: more =>
          rw [List.all_cons, Bool.and_eq_true] at hall
          have hfirst : [digit].all Char.isDigit = true := by simp [hall.1]
          have hfraction := isFraction_point (List.cons_ne_nil next more) hall.2
            (isExponent_exponentChars power)
          exact @isUnsignedNumber_append [digit] _ (List.cons_ne_nil _ _) hlead hfirst hfraction

/-! ## Binary numbers -/

/-- A number needs no sign: without one it is a number as well. -/
lemma isNumber_of_isUnsignedNumber {cs : List Char} (h : isUnsignedNumber cs = true) :
    isNumber cs = true := by
  unfold isNumber
  split
  case h_1 => cases h
  case h_2 => exact h

/-- What is no finite number is written as `null`, since there is no other way to write it. -/
lemma ofBinary_of_not_isFinite {f : Format} {x : Binary f} (h : x.isFinite = false) :
    ofBinary x = .null := by
  cases x with
  | nan => rfl
  | infinite negative => rfl
  | finite negative rank => cases h

/-- A finite number is written as a number of JSON. -/
lemma isNumber_ofBinary {f : Format} {x : Binary f} (h : x.isFinite = true) :
    ∃ written, ofBinary x = .number written ∧ isNumber written.toList = true := by
  cases x with
  | nan => cases h
  | infinite negative => cases h
  | finite negative rank =>
    refine ⟨_, rfl, ?_⟩
    have hdecimal := isUnsignedNumber_decimalChars (f.shortest .even rank)
    rw [String.toList_ofList]
    cases negative with
    | true => exact hdecimal
    | false => exact isNumber_of_isUnsignedNumber hdecimal

end Json

end Spreadsheet
