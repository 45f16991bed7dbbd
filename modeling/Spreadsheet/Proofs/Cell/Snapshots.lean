import Mathlib.Data.List.Basic
import Mathlib.Data.List.Induction
import Std.Data.HashMap.Lemmas
import Std.Data.TreeMap.Lemmas
import Spreadsheet.Cell.Snapshot
import Spreadsheet.Formula.Evaluation
import Spreadsheet.Proofs.Grid.Spelling

/-!
# Snapshots of the same cells agree

Whether the cells of a list are hashed by address, kept in a tree ordered row by row, or hashed by
the text of their addresses, every address shows the text of the last entry at it, and so every
formula has the same outcome.  Entries whose key is not the text of an address are never seen, as
addresses are looked up by their one text (`Snapshot.evaluate_agree`).

All three tables start empty and let an entry replace the earlier ones at its key
(`Snapshot.Replaces`).  Tables that do this and have corresponding keys hold the same.
-/

namespace Spreadsheet

namespace Snapshot

/-! ## Tables -/

section Tables

variable {κ κ' : Type} {entries : List (κ × String)}

/-- Some entry at the key has this text, and no later entry is at the key. -/
def LastAt (entries : List (κ × String)) (key : κ) (text : String) : Prop :=
  ∃ before after, entries = before ++ (key, text) :: after ∧ ∀ entry ∈ after, entry.1 ≠ key

/-- An entry at the end is the last one at its own key, and changes nothing at any other key. -/
lemma lastAt_concat_iff {entry : κ × String} {key : κ} {text : String} :
    LastAt (entries ++ [entry]) key text ↔
      entry = (key, text) ∨ entry.1 ≠ key ∧ LastAt entries key text := by
  constructor
  · rintro ⟨before, after, heq, hafter⟩
    rcases List.eq_nil_or_concat after with rfl | ⟨after, last, rfl⟩
    · exact .inl (List.append_singleton_inj.mp heq).2
    · rw [List.concat_eq_append] at heq hafter
      rw [← List.cons_append, ← List.append_assoc, List.append_singleton_inj] at heq
      obtain ⟨rfl, rfl⟩ := heq
      exact .inr ⟨hafter entry (List.mem_append_right after (List.mem_singleton_self entry)),
        before, after, rfl, fun e he => hafter e (List.mem_append_left _ he)⟩
  · rintro (rfl | ⟨hne, before, after, rfl, hafter⟩)
    · exact ⟨entries, [], rfl, List.forall_mem_nil _⟩
    · refine ⟨before, after ++ [entry], by simp, fun e he => ?_⟩
      rcases List.mem_append.mp he with he | he
      · exact hafter e he
      · rwa [List.mem_singleton.mp he]

variable [DecidableEq κ] [DecidableEq κ'] {table : List (κ × String) → κ → Option String}
  {table' : List (κ' × String) → κ' → Option String}

/-- A table holds nothing at first, and then an entry replaces what was at its key. -/
structure Replaces (table : List (κ × String) → κ → Option String) : Prop where
  nil : ∀ key, table [] key = none
  concat : ∀ entries entry key, table (entries ++ [entry]) key =
    if entry.1 = key then some entry.2 else table entries key

/-- A table holds the text of the last entry at a key. -/
lemma Replaces.eq_some_iff (h : Replaces table) {key : κ} {text : String} :
    table entries key = some text ↔ LastAt entries key text := by
  induction entries using List.reverseRecOn with
  | nil =>
    rw [h.nil]
    refine iff_of_false nofun ?_
    rintro ⟨before, after, heq, -⟩
    simp at heq
  | append_singleton entries entry ih =>
    rw [h.concat, lastAt_concat_iff, ← ih]
    obtain ⟨key', text'⟩ := entry
    by_cases hkey : key' = key
    · simp [hkey]
    · simp [hkey]

/-- A table keyed by names holds what a table keyed by the things named does, when the entries with
keys that name nothing are left out of it. -/
lemma Replaces.eq_of_filterMap (h : Replaces table) (h' : Replaces table') {name : κ → κ'}
    {read? : κ' → Option κ} (hread : ∀ {k k'}, read? k' = some k ↔ name k = k')
    (entries' : List (κ' × String)) (key : κ) :
    table' entries' (name key) =
      table (entries'.filterMap fun entry => (read? entry.1).map fun k => (k, entry.2)) key := by
  induction entries' using List.reverseRecOn with
  | nil => rw [h'.nil, List.filterMap_nil, h.nil]
  | append_singleton entries' entry ih =>
    rw [h'.concat, List.filterMap_append, ih]
    cases hentry : read? entry.1 with
    | none =>
      have hne : entry.1 ≠ name key := by
        intro heq
        rw [hread.mpr heq.symm] at hentry
        cases hentry
      simp [hentry, hne]
    | some k =>
      have hkey : entry.1 = name key ↔ k = key := by
        rw [← hread.mp hentry]
        constructor
        · intro heq
          exact Option.some.inj ((hread.mpr rfl).symm.trans (hread.mpr heq.symm))
        · rintro rfl
          rfl
      simp only [List.filterMap_cons, List.filterMap_nil, hentry, Option.map_some, h.concat, hkey]

end Tables

/-- A hash map that is filled from entries keeps the last one at each key. -/
lemma replaces_hashMap {κ : Type} [DecidableEq κ] [Hashable κ] :
    Replaces fun (entries : List (κ × String)) key => (Std.HashMap.ofList entries)[key]? where
  nil key := by simp
  concat entries entry key := by
    obtain ⟨key', text⟩ := entry
    simp only [Std.HashMap.ofList_eq_insertMany_empty, Std.HashMap.insertMany_append,
      Std.HashMap.insertMany_list_singleton, Std.HashMap.getElem?_insert, beq_iff_eq]

/-- An ordered map that is filled from entries keeps the last one at each key. -/
lemma replaces_treeMap :
    Replaces fun (entries : List (Address × String)) a => (Std.TreeMap.ofList entries)[a]? where
  nil a := by simp
  concat entries entry a := by
    obtain ⟨b, text⟩ := entry
    simp only [Std.TreeMap.ofList_eq_insertMany_empty, Std.TreeMap.insertMany_append,
      Std.TreeMap.insertMany_list_singleton, Std.TreeMap.getElem?_insert,
      Std.LawfulEqOrd.compare_eq_iff_eq]

/-! ## Snapshots -/

/-- The text of an address. -/
def IsAddressText (t : String) : Prop :=
  ∃ a : Address, a.text = t

/-- The texts that are read as an address are the texts of addresses. -/
lemma isAddressText_iff {t : String} : IsAddressText t ↔ (Address.ofText? t).isSome = true := by
  simp only [IsAddressText, Option.isSome_iff_exists, Address.ofText?_eq_some_iff]

instance : DecidablePred IsAddressText :=
  fun _ => decidable_of_iff _ isAddressText_iff.symm

/-- The entries whose keys are texts of addresses, at these addresses. -/
def addressed (entries : List (String × String)) : List (Address × String) :=
  entries.filterMap fun entry => (Address.ofText? entry.1).map fun a => (a, entry.2)

variable {pairs : List (String × String)}

/-- No entry is lost when every key is the text of an address. -/
lemma forall₂_addressed (h : ∀ pair ∈ pairs, ∃ a, Address.ofText? pair.1 = some a) :
    List.Forall₂ (fun pair cell => Address.ofText? pair.1 = some cell.1 ∧ pair.2 = cell.2) pairs
      (addressed pairs) := by
  unfold addressed
  induction pairs with
  | nil => exact .nil
  | cons pair pairs ih =>
    rw [List.forall_mem_cons] at h
    obtain ⟨⟨a, ha⟩, hpairs⟩ := h
    simp only [List.filterMap_cons, ha, Option.map_some]
    exact .cons ⟨ha, rfl⟩ (ih hpairs)

/-- Entries whose keys are no texts of addresses add nothing to the entries by address. -/
lemma addressed_filter (entries : List (String × String)) :
    addressed (entries.filter fun entry => IsAddressText entry.1) = addressed entries := by
  unfold addressed
  rw [List.filterMap_filter]
  refine List.filterMap_congr fun entry _ => ?_
  by_cases h : IsAddressText entry.1
  · rw [if_pos (decide_eq_true h)]
  · have hnone := Option.not_isSome_iff_eq_none.mp (mt isAddressText_iff.mpr h)
    rw [if_neg fun hdecide => h (of_decide_eq_true hdecide), hnone, Option.map_none]

/-- An ordered table of addresses looks up what a hash table does. -/
lemma ordered_eq_hashed (cells : List (Address × String)) : ordered cells = hashed cells := by
  funext a
  refine Option.ext fun text => ?_
  have hordered : ordered cells a = some text ↔ LastAt cells a text := replaces_treeMap.eq_some_iff
  exact hordered.trans replaces_hashMap.eq_some_iff.symm

/-- A table by texts of addresses looks up what a hash table by addresses does, since each address
has one text. -/
lemma named_eq_hashed (entries : List (String × String)) :
    named entries = hashed (addressed entries) := by
  funext a
  exact replaces_hashMap.eq_of_filterMap replaces_hashMap Address.ofText?_eq_some_iff entries a

/-- Entries whose keys are texts of addresses give the same snapshot in a hash table or an ordered
tree keyed by these addresses and in a hash table keyed by the texts: an address shows the text of
the last entry at it.  Every formula has the same outcome on all three, and also when other entries
are put among the ones keyed by texts. -/
theorem evaluate_agree (pairs : List (String × String))
    (h : ∀ pair ∈ pairs, ∃ a, Address.ofText? pair.1 = some a) :
    (List.Forall₂ (fun pair cell => Address.ofText? pair.1 = some cell.1 ∧ pair.2 = cell.2) pairs
      (addressed pairs)) ∧
    (∀ a text, hashed (addressed pairs) a = some text ↔ LastAt pairs a.text text) ∧
    ∀ (limits : Limits) (formula : String),
      Formula.evaluate limits (ordered (addressed pairs)) formula =
          Formula.evaluate limits (hashed (addressed pairs)) formula ∧
        Formula.evaluate limits (named pairs) formula =
          Formula.evaluate limits (hashed (addressed pairs)) formula ∧
        ∀ entries, (entries.filter fun entry => IsAddressText entry.1) = pairs →
          Formula.evaluate limits (named entries) formula =
            Formula.evaluate limits (hashed (addressed pairs)) formula := by
  refine ⟨forall₂_addressed h, fun a text => ?_, fun limits formula => ⟨?_, ?_, ?_⟩⟩
  · rw [← named_eq_hashed]
    exact replaces_hashMap.eq_some_iff
  · rw [ordered_eq_hashed]
  · rw [named_eq_hashed]
  · rintro entries rfl
    rw [named_eq_hashed, addressed_filter]

/-- A cell that is given twice, between keys that look like addresses and are none. -/
theorem evaluate_agree_replaced :
    let pairs := [("A1", "1"), ("B2", "x"), ("A1", "2")]
    let entries := [("a1", "3"), ("A1", "1"), ("B2", "x"), ("A01", "4"), ("A1", "2"), (" A1", "5"),
      ("A1:A1", "6")]
    (∀ pair ∈ pairs, ∃ a, Address.ofText? pair.1 = some a) ∧
      (entries.filter fun entry => IsAddressText entry.1) = pairs ∧
      Formula.evaluate {} (ordered (addressed pairs)) "=A1&B2" = .ok (.text "2x") ∧
      Formula.evaluate {} (hashed (addressed pairs)) "=A1&B2" = .ok (.text "2x") ∧
      Formula.evaluate {} (named entries) "=A1&B2" = .ok (.text "2x") := by
  intro pairs entries
  have hread : ∀ pair ∈ pairs, ∃ a, Address.ofText? pair.1 = some a := by
    have hsome : ∀ pair ∈ pairs, (Address.ofText? pair.1).isSome = true := by decide +kernel
    exact fun pair hpair => Option.isSome_iff_exists.mp (hsome pair hpair)
  have hfilter : (entries.filter fun entry => IsAddressText entry.1) = pairs := by decide +kernel
  obtain ⟨-, -, hagree⟩ := evaluate_agree pairs hread
  obtain ⟨hordered, -, hnamed⟩ := hagree {} "=A1&B2"
  have hjoined : Formula.evaluate {} (ordered (addressed pairs)) "=A1&B2" = .ok (.text "2x") := by
    decide +kernel
  exact ⟨hread, hfilter, hjoined, hordered.symm.trans hjoined,
    (hnamed entries hfilter).trans (hordered.symm.trans hjoined)⟩

end Snapshot

end Spreadsheet
