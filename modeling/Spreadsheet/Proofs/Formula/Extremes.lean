import Mathlib.Data.List.Perm.Basic
import Spreadsheet.Proofs.Binary.Order
import Spreadsheet.Proofs.Cell.Series

/-!
# Maximum, minimum and count

`MAX` and `MIN` give a number that they found among their arguments and that no other one found
exceeds or falls short of, also when all numbers are negative; only without numbers do they give
zero.  What they and `COUNT` give depends on which values were found and not on their order
(`Formula.apply_max_min_count`).

The numbers found in cells are finite (`Formula.isFinite_of_mem_numbers`), so that all of them have
a place in the order as soon as the numbers among the arguments are finite.  Both functions combine
numbers from the left by picking one of two, and what is true of the number picked is proved once
for both directions (`Formula.best_of_picks`).
-/

namespace Spreadsheet

namespace Formula

variable {cells cells' : Snapshot} {args args' : List Argument}

/-- The numbers found by a function, in the order in which they are found. -/
def found (cells : Snapshot) (args : List Argument) : List Number :=
  args.flatMap (Argument.numbers cells)

/-! ## Numbers found -/

/-- The number of a cell was read from a text, and so it is finite. -/
lemma isFinite_of_number?_content {a : Address} {n : Number}
    (h : (cells.content a).number? = some n) : n.isFinite = true := by
  rw [number?_content, Option.bind_eq_some_iff] at h
  obtain ⟨s, -, hnumber⟩ := h
  exact Number.isFinite_of_ofCellText? hnumber

/-- The numbers that an argument contributes are finite if its own number is, since cells hold
finite numbers only. -/
lemma isFinite_of_mem_numbers {arg : Argument} (harg : ∀ n, arg = .number n → n.isFinite = true)
    {n : Number} (hn : n ∈ arg.numbers cells) : n.isFinite = true := by
  cases arg with
  | number m =>
    obtain rfl : n = m := List.mem_singleton.mp hn
    exact harg n rfl
  | text content => cases hn
  | cell a => exact isFinite_of_number?_content (Option.mem_toList.mp hn)
  | range r =>
    obtain ⟨a, -, ha⟩ := List.mem_filterMap.mp hn
    exact isFinite_of_number?_content ha

/-- A function finds only finite numbers, if those among its arguments are finite. -/
lemma isFinite_of_mem_found (hargs : ∀ n, .number n ∈ args → n.isFinite = true) :
    ∀ n ∈ found cells args, n.isFinite = true := by
  intro n hn
  obtain ⟨arg, harg, hn⟩ := List.mem_flatMap.mp hn
  refine isFinite_of_mem_numbers (fun m hm => hargs m ?_) hn
  rwa [← hm]

/-! ## The number picked -/

section Picks

variable {rel : Int → Int → Prop} {better : Number → Number → Number} {xs ys : List Number}

/-- What is left of combining finite numbers is one of them, and all of them are related to it. -/
lemma foldl_of_picks [Std.Refl rel] [IsTrans Int rel] (hpicks : Binary.Picks rel better)
    (x : Number) (xs : List Number) (hfinite : ∀ y ∈ x :: xs, y.isFinite = true) :
    xs.foldl better x ∈ x :: xs ∧ ∀ y ∈ x :: xs, y.ByValue rel (xs.foldl better x) := by
  induction xs generalizing x with
  | nil =>
    have hx := hfinite x (List.mem_singleton_self x)
    exact ⟨List.mem_singleton_self x, by simpa using Binary.ByValue.refl hx⟩
  | cons y xs ih =>
    rw [List.forall_mem_cons, List.forall_mem_cons] at hfinite
    obtain ⟨hx, hy, hxs⟩ := hfinite
    rw [List.foldl_cons]
    rcases hpicks x y hx hy with ⟨hpick, hother⟩ | ⟨hpick, hother⟩
    · rw [hpick]
      obtain ⟨hmem, hall⟩ := ih x (List.forall_mem_cons.mpr ⟨hx, hxs⟩)
      rw [List.forall_mem_cons] at hall
      refine ⟨?_, ?_⟩
      · rcases List.mem_cons.mp hmem with heq | hmem
        · rw [heq]
          exact List.mem_cons_self
        · exact List.mem_cons_of_mem x (List.mem_cons_of_mem y hmem)
      · rw [List.forall_mem_cons, List.forall_mem_cons]
        exact ⟨hall.1, hother.trans hall.1, hall.2⟩
    · rw [hpick]
      obtain ⟨hmem, hall⟩ := ih y (List.forall_mem_cons.mpr ⟨hy, hxs⟩)
      refine ⟨List.mem_cons_of_mem x hmem, ?_⟩
      rw [List.forall_mem_cons] at hall ⊢
      exact ⟨hother.trans hall.1, List.forall_mem_cons.mpr hall⟩

/-- The number picked among finite ones is one of them, and all of them are related to it. -/
lemma best_of_picks [Std.Refl rel] [IsTrans Int rel] (hpicks : Binary.Picks rel better)
    (hne : xs ≠ []) (hfinite : ∀ x ∈ xs, x.isFinite = true) :
    Function.best better xs ∈ xs ∧ ∀ x ∈ xs, x.ByValue rel (Function.best better xs) := by
  cases xs with
  | nil => exact absurd rfl hne
  | cons x xs => exact foldl_of_picks hpicks x xs hfinite

/-- A number related to all numbers of some values is related to each number of the same values. -/
lemma byValue_of_map_subset {n m : Number} (hsubset : ys.map Binary.value? ⊆ xs.map Binary.value?)
    (hxs : ∀ x ∈ xs, x.ByValue rel n) (hm : m ∈ ys) : m.ByValue rel n := by
  obtain ⟨x, hx, heq⟩ := List.mem_map.mp (hsubset (List.mem_map_of_mem hm))
  obtain ⟨u, v, hu, hv, huv⟩ := hxs x hx
  exact ⟨u, v, heq.symm.trans hu, hv, huv⟩

/-- Among the same values, in whatever order, a number of the same value is picked. -/
lemma best_of_perm [IsPartialOrder Int rel] (hpicks : Binary.Picks rel better)
    (hxs : ∀ x ∈ xs, x.isFinite = true) (hys : ∀ y ∈ ys, y.isFinite = true)
    (hperm : (ys.map Binary.value?).Perm (xs.map Binary.value?)) :
    (Function.best better ys).ByValue (· = ·) (Function.best better xs) := by
  by_cases hne : xs = []
  · subst hne
    rw [List.map_nil, List.perm_nil, List.map_eq_nil_iff] at hperm
    rw [hperm]
    exact Binary.ByValue.refl Number.isFinite_zero
  · have hne' : ys ≠ [] := by
      rintro rfl
      exact hne (List.map_eq_nil_iff.mp hperm.symm.eq_nil)
    obtain ⟨hmem, hall⟩ := best_of_picks hpicks hne hxs
    obtain ⟨hmem', hall'⟩ := best_of_picks hpicks hne' hys
    obtain ⟨u, v, hu, hv, huv⟩ := byValue_of_map_subset hperm.subset hall hmem'
    obtain ⟨v', u', hv', hu', hvu⟩ := byValue_of_map_subset hperm.symm.subset hall' hmem
    obtain rfl := Option.some.inj (hu.symm.trans hu')
    obtain rfl := Option.some.inj (hv.symm.trans hv')
    exact ⟨u, v, hu, hv, antisymm_of rel huv hvu⟩

end Picks

/-! ## The functions -/

/-- The functions find the same values in both lists of arguments, maybe in another order. -/
def FindSame (cells : Snapshot) (args : List Argument) (cells' : Snapshot)
    (args' : List Argument) : Prop :=
  ((found cells' args').map Binary.value?).Perm ((found cells args).map Binary.value?)

/-- Two numbers with the same value, as both zeros have. -/
def SameNumber (v w : Value) : Prop :=
  ∃ n m, v = .number n ∧ w = .number m ∧ n.ByValue (· = ·) m

/-- The functions that do not depend on the order of their arguments give the same. -/
structure AgreeOn (cells : Snapshot) (args : List Argument) (cells' : Snapshot)
    (args' : List Argument) : Prop where
  max : SameNumber (Function.max.apply cells' args') (Function.max.apply cells args)
  min : SameNumber (Function.min.apply cells' args') (Function.min.apply cells args)
  count : Function.count.apply cells' args' = Function.count.apply cells args

/-- The same values are those of finite numbers, since no other number has a value. -/
lemma isFinite_of_findSame (hfinite : ∀ n ∈ found cells args, n.isFinite = true)
    (h : FindSame cells args cells' args') : ∀ n ∈ found cells' args', n.isFinite = true := by
  intro n hn
  obtain ⟨m, hm, heq⟩ := List.mem_map.mp (h.subset (List.mem_map_of_mem hn))
  obtain ⟨u, hu⟩ := Binary.exists_value?_of_isFinite (hfinite m hm)
  exact Binary.isFinite_of_value? (heq.symm.trans hu)

/-- Where the same values are found, the functions that do not depend on the order give the same. -/
lemma agreeOn_of_findSame (hfinite : ∀ n ∈ found cells args, n.isFinite = true)
    (h : FindSame cells args cells' args') : AgreeOn cells args cells' args' where
  max := ⟨_, _, rfl, rfl,
    best_of_perm Binary.picks_maximum hfinite (isFinite_of_findSame hfinite h) h⟩
  min := ⟨_, _, rfl, rfl,
    best_of_perm Binary.picks_minimum hfinite (isFinite_of_findSame hfinite h) h⟩
  count := by
    have hlength := h.length_eq
    rw [List.length_map, List.length_map] at hlength
    exact congrArg (fun n => Value.number (.ofNat n)) hlength

/-- In permuted arguments the same values are found. -/
lemma findSame_of_perm (h : args'.Perm args) : FindSame cells args cells args' :=
  (h.flatMap_right _).map _

/-- `MAX` and `MIN` give zero when there are no numbers, and otherwise one of the numbers found that
no other one exceeds or falls short of.  Permuted arguments give them the same value, and so do any
arguments among which the same values are found; the number of these is the same as well. -/
theorem apply_max_min_count (cells : Snapshot) (args : List Argument)
    (hargs : ∀ n, .number n ∈ args → n.isFinite = true) :
    (found cells args = [] → Function.max.apply cells args = .number .zero ∧
      Function.min.apply cells args = .number .zero) ∧
    (found cells args ≠ [] → ∃ high ∈ found cells args, ∃ low ∈ found cells args,
      Function.max.apply cells args = .number high ∧ Function.min.apply cells args = .number low ∧
        ∀ n ∈ found cells args, n.ByValue (· ≤ ·) high ∧ n.ByValue (· ≥ ·) low) ∧
    (∀ args', args'.Perm args → AgreeOn cells args cells args') ∧
    ∀ cells' args', FindSame cells args cells' args' → AgreeOn cells args cells' args' := by
  have hfinite : ∀ n ∈ found cells args, n.isFinite = true := isFinite_of_mem_found hargs
  have hsame : ∀ cells' args', FindSame cells args cells' args' → AgreeOn cells args cells' args' :=
    fun _ _ => agreeOn_of_findSame hfinite
  refine ⟨fun hnone => ?_, fun hne => ?_, fun args' hperm => hsame _ _ (findSame_of_perm hperm),
    hsame⟩
  · rw [found] at hnone
    simp only [Function.apply, hnone, Function.best, and_self]
  · obtain ⟨hhigh, hle⟩ := best_of_picks Binary.picks_maximum hne hfinite
    obtain ⟨hlow, hge⟩ := best_of_picks Binary.picks_minimum hne hfinite
    exact ⟨_, hhigh, _, hlow, rfl, rfl, fun n hn => ⟨hle n hn, hge n hn⟩⟩

/-- Among negative numbers the largest one is not zero, and where they stand makes no difference. -/
theorem apply_max_min_count_negative :
    let a1 : Address := ⟨⟨1, by decide, by decide⟩, ⟨1, by decide, by decide⟩⟩
    let b2 : Address := ⟨⟨2, by decide, by decide⟩, ⟨2, by decide, by decide⟩⟩
    let cells : Snapshot := fun a =>
      if a = a1 then some " -4 " else if a = b2 then some "-.5" else some "none"
    let two : Number := -.ofNat 2
    let args : List Argument := [.range ⟨a1, b2⟩, .text "9", .number two, .cell b2]
    let args' : List Argument := [.cell b2, .number two, .range ⟨a1, b2⟩, .text "9"]
    (∀ n, .number n ∈ args → n.isFinite = true) ∧
      (found cells args).map Binary.display = ["-4", "-0.5", "-2", "-0.5"] ∧
      (found cells args').map Binary.display = ["-0.5", "-2", "-4", "-0.5"] ∧
      (Function.max.apply cells args).display = "-0.5" ∧
      (Function.min.apply cells args).display = "-4" ∧ AgreeOn cells args cells args' := by
  intro a1 b2 cells two args args'
  have hargs : ∀ n, .number n ∈ args → n.isFinite = true := by
    intro n hn
    have htwo : n = two := by simpa only [args, List.mem_cons, List.not_mem_nil, reduceCtorEq,
      Argument.number.injEq, false_or, or_false] using hn
    have hfinite : two.isFinite = true := by decide +kernel
    rw [htwo, hfinite]
  obtain ⟨-, -, hperm, -⟩ := apply_max_min_count cells args hargs
  exact ⟨hargs, by decide +kernel, by decide +kernel, by decide +kernel, by decide +kernel,
    hperm args' (by decide +kernel)⟩

end Formula

end Spreadsheet
