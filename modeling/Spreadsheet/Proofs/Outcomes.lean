import Mathlib.Tactic.Common

/-!
# Outcomes

A computation that may fail succeeds exactly when each of its steps does, and otherwise it fails
like the first step that does not.  Two computations whose steps have related outcomes have related
outcomes (`Related.bind`).  A result that is withheld where it would be wrong is given exactly where
it is right (`checked_eq_some_iff`).
-/

namespace Spreadsheet

variable {ε ε' α β : Type} {x : Except ε α} {b : β}

/-- Two computations succeed exactly when the first one does and the second one does with its
result. -/
lemma bind_eq_ok_iff {f : α → Except ε β} :
    x >>= f = .ok b ↔ ∃ a, x = .ok a ∧ f a = .ok b := by
  cases x with
  | error err =>
    constructor
    · intro h
      cases h
    · rintro ⟨a, ha, -⟩
      cases ha
  | ok a =>
    constructor
    · intro h
      exact ⟨a, rfl, h⟩
    · rintro ⟨a', ha, h⟩
      rw [Except.ok.inj ha]
      exact h

/-- What is made of a result is there exactly when the result is. -/
lemma map_eq_ok_iff {f : α → β} : x.map f = .ok b ↔ ∃ a, x = .ok a ∧ f a = b := by
  have hbind : x.map f = x >>= fun a => .ok (f a) := by cases x <;> rfl
  simp only [hbind, bind_eq_ok_iff, Except.ok.injEq]

/-- Making something of a result never fails by itself. -/
lemma exists_map_eq_ok_iff {f : α → β} : (∃ b, x.map f = .ok b) ↔ ∃ a, x = .ok a := by
  simp only [map_eq_ok_iff]
  constructor
  · rintro ⟨_, a, ha, -⟩
    exact ⟨a, ha⟩
  · rintro ⟨a, ha⟩
    exact ⟨f a, a, ha, rfl⟩

/-- Renaming errors does not change what succeeds, nor with which result. -/
lemma mapError_eq_ok_iff {f : ε → ε'} {a : α} :
    x.mapError f = .ok a ↔ x = .ok a := by
  cases x with
  | error err =>
    constructor
    · intro h
      cases h
    · intro h
      cases h
  | ok a' => simp only [Except.mapError, Except.ok.injEq]

/-! ## Failures -/

/-- Two steps in a row fail just when the first one fails, or the second one fails on what the first
one gives. -/
lemma bind_eq_error_iff {f : α → Except ε β} {err : ε} :
    x >>= f = .error err ↔ x = .error err ∨ ∃ a, x = .ok a ∧ f a = .error err := by
  cases x with
  | error err' =>
    constructor
    · intro h
      exact .inl (congrArg Except.error (Except.error.inj h))
    · rintro (h | ⟨a, ha, -⟩)
      · cases h
        rfl
      · cases ha
  | ok a =>
    constructor
    · intro h
      exact .inr ⟨a, rfl, h⟩
    · rintro (h | ⟨a', ha, h⟩)
      · cases h
      · rw [Except.ok.inj ha]
        exact h

/-- When nothing behind the first step fails, the first step decides. -/
lemma bind_eq_error_iff_left {f : α → Except ε β} {err : ε} (hf : ∀ a, ∃ b, f a = .ok b) :
    x >>= f = .error err ↔ x = .error err := by
  rw [bind_eq_error_iff, or_iff_left]
  rintro ⟨a, -, herr⟩
  obtain ⟨b, hb⟩ := hf a
  rw [hb] at herr
  cases herr

/-- A run over a list fails at the first step that fails, after the steps for what stands in front
of it. -/
lemma foldlM_eq_error_iff {f : β → α → Except ε β} {as : List α} {err : ε} :
    as.foldlM f b = .error err ↔ ∃ before a after b', as = before ++ a :: after ∧
      before.foldlM f b = .ok b' ∧ f b' a = .error err := by
  induction as generalizing b with
  | nil => exact iff_of_false nofun (by simp)
  | cons a as ih =>
    rw [List.foldlM_cons, bind_eq_error_iff]
    constructor
    · rintro (hfirst | ⟨b₁, hfirst, hrest⟩)
      · exact ⟨[], a, as, b, rfl, rfl, hfirst⟩
      · obtain ⟨before, a', after, b', rfl, hbefore, herr⟩ := ih.mp hrest
        refine ⟨a :: before, a', after, b', rfl, ?_, herr⟩
        rw [List.foldlM_cons, hfirst]
        exact hbefore
    · rintro ⟨before, a', after, b', has, hbefore, herr⟩
      cases before with
      | nil =>
        obtain ⟨rfl, rfl⟩ := List.cons.inj has
        cases hbefore
        exact .inl herr
      | cons a₁ before =>
        obtain ⟨rfl, rfl⟩ := List.cons.inj has
        rw [List.foldlM_cons] at hbefore
        obtain ⟨b₁, hfirst, hrest⟩ := bind_eq_ok_iff.mp hbefore
        exact .inr ⟨b₁, hfirst, ih.mpr ⟨before, a', after, b', rfl, hrest, herr⟩⟩

/-- A renamed error comes from an error with the other name. -/
lemma mapError_eq_error_iff {f : ε → ε'} {err' : ε'} :
    x.mapError f = .error err' ↔ ∃ err, x = .error err ∧ err' = f err := by
  cases x with
  | error err => simp only [Except.mapError, Except.error.injEq, exists_eq_left', eq_comm]
  | ok a =>
    constructor
    · intro h
      cases h
    · rintro ⟨err, herr, -⟩
      cases herr

/-! ## Checked results -/

/-- A result is given where its value is exact and withheld where no value is. -/
lemma checked_eq_some_iff {ν : Type} {val : α → ν} (hval : Function.Injective val) {wrong : Prop}
    [Decidable wrong] {result a : α} {exact : ν} (hresult : ¬wrong → val result = exact)
    (hwrong : wrong → ∀ a, val a ≠ exact) :
    (if wrong then none else some result) = some a ↔ val a = exact := by
  split
  case isTrue h => exact iff_of_false nofun (hwrong h a)
  case isFalse h => rw [Option.some.injEq, ← hresult h, hval.eq_iff, eq_comm]

/-! ## Two computations -/

/-- Both computations succeed with related results, or both fail with related errors. -/
inductive Related {α' β' : Type} (e : ε → ε' → Prop) (r : α' → β' → Prop) :
    Except ε α' → Except ε' β' → Prop
  | ok {a : α'} {b : β'} (result : r a b) : Related e r (.ok a) (.ok b)
  | error {err : ε} {err' : ε'} (failure : e err err') : Related e r (.error err) (.error err')

section Related

variable {γ δ : Type} {e : ε → ε' → Prop} {r : α → β → Prop} {q : γ → δ → Prop}

/-- Related computations go on in a related way behind related results. -/
lemma Related.bind {x : Except ε α} {y : Except ε' β} {f : α → Except ε γ} {g : β → Except ε' δ}
    (h : Related e r x y) (hfg : ∀ a b, r a b → Related e q (f a) (g b)) :
    Related e q (x >>= f) (y >>= g) := by
  cases h with
  | ok result => exact hfg _ _ result
  | error failure => exact .error failure

/-- What is made of related results in a related way is related. -/
lemma Related.map {x : Except ε α} {y : Except ε' β} {f : α → γ} {g : β → δ} (h : Related e r x y)
    (hfg : ∀ a b, r a b → q (f a) (g b)) : Related e q (x.map f) (y.map g) := by
  cases h with
  | ok result => exact .ok (hfg _ _ result)
  | error failure => exact .error failure

end Related

end Spreadsheet
