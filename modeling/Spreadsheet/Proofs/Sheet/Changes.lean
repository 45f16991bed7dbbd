import Spreadsheet.Proofs.Sheet.Atomicity

/-!
# How requests change a sheet

`Sheet.Changes s request next` tells by which change a request leads from a sheet to the next one,
together with what the request read beforehand: the addresses it names, the cells that an imported
text gives, what lies on the clipboard.  Every request that succeeds makes one of these changes
(`Sheet.changes_of_step`), and a request that fails makes none, so what steps keep is shown change
by change.
-/

namespace Spreadsheet

/-- The request only looks at the sheet. -/
def Step.looks : Step → Bool
  | .evaluate _ | .display _ | .formula _ | .cell _ | .exportText | .exportFile _ _ | .chart _
  | .json => true
  | _ => false

namespace Sheet

variable {s : Sheet}

/-! ## What is stored when a cell is submitted -/

/-- A commit stores a cell with the style of the one that was there. -/
lemma exists_put_commit (s : Sheet) (a : Address) (input : String) :
    ∃ value, (s.commit a input).1 = s.put a
      ⟨value, if isFormula input then some input else none, (s.cell? a).bind Cell.style⟩ := by
  unfold commit
  dsimp only
  split
  case isTrue => exact ⟨_, rfl⟩
  case isFalse => exact ⟨_, rfl⟩

/-- Submitting again stores the cell that is there with another value, or nothing. -/
lemma resubmit_cases (s : Sheet) (a : Address) : (s.resubmit a).1 = s ∨
    ∃ c value, s.cell? a = some c ∧ c.formula ≠ none ∧
      (s.resubmit a).1 = s.put a { c with value } := by
  unfold resubmit
  split
  case h_1 value formula style hcell =>
    exact .inr ⟨_, _, hcell, Option.some_ne_none formula, rfl⟩
  case h_2 => exact .inl rfl

/-! ## The clipboard and the limits of changed sheets -/

/-- A commit leaves the clipboard as it was. -/
lemma clipboard_commit (s : Sheet) (a : Address) (input : String) :
    (s.commit a input).1.clipboard = s.clipboard := by
  obtain ⟨value, hput⟩ := s.exists_put_commit a input
  rw [hput, put]

/-- A commit leaves the limits as they were. -/
lemma limits_commit (s : Sheet) (a : Address) (input : String) :
    (s.commit a input).1.limits = s.limits := by
  obtain ⟨value, hput⟩ := s.exists_put_commit a input
  rw [hput, put]

/-- Submitting again leaves the clipboard as it was. -/
lemma clipboard_resubmit (s : Sheet) (a : Address) :
    (s.resubmit a).1.clipboard = s.clipboard := by
  rcases s.resubmit_cases a with hsame | ⟨c, value, -, -, hput⟩
  · rw [hsame]
  · rw [hput, put]

/-- Submitting again leaves the limits as they were. -/
lemma limits_resubmit (s : Sheet) (a : Address) : (s.resubmit a).1.limits = s.limits := by
  rcases s.resubmit_cases a with hsame | ⟨c, value, -, -, hput⟩
  · rw [hsame]
  · rw [hput, put]

/-- What each change of a series keeps, the series keeps. -/
lemma foldl_keeps {α β : Type} {f : Sheet → α → Sheet} (part : Sheet → β)
    (h : ∀ s x, part (f s x) = part s) (xs : List α) (s : Sheet) :
    part (xs.foldl f s) = part s := by
  induction xs generalizing s with
  | nil => rfl
  | cons x xs ih => rw [List.foldl_cons, ih, h]

/-- Cutting puts the cells on the clipboard as they were before they were removed. -/
lemma clipboard_cut (s : Sheet) (addresses : List Address) :
    (s.cut addresses).clipboard = some ⟨.cut, s.capture addresses⟩ := by
  rw [cut, foldl_keeps Sheet.clipboard]
  exact fun _ _ => rfl

/-- Cutting leaves the limits as they were. -/
lemma limits_cut (s : Sheet) (addresses : List Address) : (s.cut addresses).limits = s.limits := by
  rw [cut, foldl_keeps Sheet.limits]
  exact fun _ _ => rfl

/-- Storing texts leaves the clipboard as it was. -/
lemma clipboard_putTexts (s : Sheet) (cells : List (Address × String)) :
    (s.putTexts cells).clipboard = s.clipboard := by
  rw [putTexts, foldl_keeps Sheet.clipboard]
  exact fun _ _ => rfl

/-- Storing texts leaves the limits as they were. -/
lemma limits_putTexts (s : Sheet) (cells : List (Address × String)) :
    (s.putTexts cells).limits = s.limits := by
  rw [putTexts, foldl_keeps Sheet.limits]
  exact fun _ _ => rfl

/-- Storing the pasted cells leaves the clipboard as it was: what becomes of it is up to the
request. -/
lemma clipboard_pasteCells (s : Sheet) (anchor target : Address) (adjust : Bool)
    (cells : List (Address × Cell)) :
    (s.pasteCells anchor target adjust cells).1.clipboard = s.clipboard := by
  rw [pasteCells, resubmitAll, foldl_keeps Sheet.clipboard clipboard_resubmit, putAll,
    foldl_keeps Sheet.clipboard]
  exact fun _ _ => rfl

/-- Pasting leaves the limits as they were. -/
lemma limits_pasteCells (s : Sheet) (anchor target : Address) (adjust : Bool)
    (cells : List (Address × Cell)) :
    (s.pasteCells anchor target adjust cells).1.limits = s.limits := by
  rw [pasteCells, resubmitAll, foldl_keeps Sheet.limits limits_resubmit, putAll,
    foldl_keeps Sheet.limits]
  exact fun _ _ => rfl

/-! ## Changes -/

/-- How a request that succeeds changes the sheet. -/
inductive Changes (s : Sheet) : Step → Sheet → Prop
  | commit {spot input : String} {a : Address} (hspot : Address.ofText? spot = some a) :
      Changes s (.commit spot input) (s.commit a input).1
  | resubmit {spot : String} {a : Address} (hspot : Address.ofText? spot = some a) :
      Changes s (.resubmit spot) (s.resubmit a).1
  | clear {spot : String} {a : Address} (hspot : Address.ofText? spot = some a) :
      Changes s (.clear spot) (s.remove a)
  | restyle {spot : String} {patch : StylePatch} {a : Address}
      (hspot : Address.ofText? spot = some a) : Changes s (.restyle spot patch) (s.restyle a patch)
  | copy {spots : List String} {addresses : List Address}
      (hspots : spots.mapM place = .ok addresses) : Changes s (.copy spots) (s.copy addresses)
  | cut {spots : List String} {addresses : List Address}
      (hspots : spots.mapM place = .ok addresses) : Changes s (.cut spots) (s.cut addresses)
  /-- A clipboard that was filled by cutting is empty afterwards. -/
  | paste {spot : String} {adjust : Bool} {target anchor : Address} {kind : Clipboard.Kind}
      {cell : Cell} {others : List (Address × Cell)} (hspot : Address.ofText? spot = some target)
      (hclipboard : s.clipboard = some ⟨kind, (anchor, cell) :: others⟩) :
      Changes s (.paste spot adjust)
        { (s.pasteCells anchor target adjust ((anchor, cell) :: others)).1 with
          clipboard := s.clipboard.filter (·.kind = .copy) }
  | importBytes {bytes : List UInt8} {cells : List (Address × String)}
      (hread : Csv.read bytes = .ok cells) : Changes s (.importBytes bytes) (s.putTexts cells)
  | importFile {path : String} {files : Files} {content : ByteArray}
      {cells : List (Address × String)} (hcontent : files.read (within path) = .ok content)
      (hread : Csv.read content.data.toList = .ok cells) :
      Changes s (.importFile path files) (s.putTexts cells)
  | setLimits {given : Option Json} {limits : Limits} (hgiven : newLimits given = .ok limits) :
      Changes s (.setLimits given) { s with limits }
  | look {request : Step} (hlooks : request.looks = true) : Changes s request s

/-- The sheet after pasting: the captured cells are pasted, and a cut clipboard is emptied. -/
lemma paste?_eq_some {target : Address} {adjust : Bool} {next : Sheet} {count : Nat}
    (h : s.paste? target adjust = some (next, count)) : ∃ kind anchor cell others,
      s.clipboard = some ⟨kind, (anchor, cell) :: others⟩ ∧
        next = { (s.pasteCells anchor target adjust ((anchor, cell) :: others)).1 with
          clipboard := s.clipboard.filter (·.kind = .copy) } := by
  unfold paste? at h
  split at h
  case h_1 kind anchor cell others hclipboard =>
    refine ⟨kind, anchor, cell, others, hclipboard, ?_⟩
    have hkept := clipboard_pasteCells s anchor target adjust ((anchor, cell) :: others)
    rw [hclipboard] at hkept ⊢
    cases kind with
    | copy =>
      cases h
      have hfilter : Option.filter (·.kind = .copy) (some ⟨.copy, (anchor, cell) :: others⟩) =
          (s.pasteCells anchor target adjust ((anchor, cell) :: others)).1.clipboard :=
        hkept.symm
      rw [hfilter]
      rfl
    | cut =>
      cases h
      rfl
  case h_2 => cases h

/-- An import that succeeds has stored the texts that were found. -/
lemma importCsv_eq_ok {bytes : List UInt8} {next : Sheet} {count : Nat}
    (h : s.importCsv bytes = .ok (next, count)) :
    ∃ cells, Csv.read bytes = .ok cells ∧ next = s.putTexts cells := by
  obtain ⟨cells, hread, hnext⟩ := bind_eq_ok_iff.mp h
  cases hnext
  exact ⟨cells, hread, rfl⟩

/-- A request that is carried out makes its change. -/
lemma changes_of_tryStep {request : Step} {next : Sheet} {outcome : Outcome}
    (hstep : s.tryStep request = .ok (next, outcome)) : s.Changes request next := by
  -- Every request with an address reads it first.
  have hplace : ∀ {spot : String} {f : Address → Except SheetError (Sheet × Outcome)},
      (place spot >>= f) = .ok (next, outcome) →
      ∃ a, Address.ofText? spot = some a ∧ f a = .ok (next, outcome) := by
    intro spot f hf
    obtain ⟨a, ha, hf⟩ := bind_eq_ok_iff.mp hf
    exact ⟨a, place_eq_ok_iff.mp ha, hf⟩
  cases request with
  | commit spot input =>
    obtain ⟨a, ha, hnext⟩ := hplace hstep
    cases hnext
    exact .commit ha
  | resubmit spot =>
    obtain ⟨a, ha, hnext⟩ := hplace hstep
    cases hnext
    exact .resubmit ha
  | clear spot =>
    obtain ⟨a, ha, hnext⟩ := hplace hstep
    cases hnext
    exact .clear ha
  | restyle spot patch =>
    obtain ⟨a, ha, hnext⟩ := hplace hstep
    cases hnext
    exact .restyle ha
  | display spot | cell spot =>
    obtain ⟨a, -, hnext⟩ := hplace hstep
    cases hnext
    exact .look rfl
  | formula spot =>
    obtain ⟨a, -, hnext⟩ := hplace hstep
    split at hnext
    · cases hnext
      exact .look rfl
    · cases hnext
      exact .look rfl
  | copy spots =>
    obtain ⟨addresses, haddresses, hnext⟩ := bind_eq_ok_iff.mp hstep
    cases hnext
    exact .copy haddresses
  | cut spots =>
    obtain ⟨addresses, haddresses, hnext⟩ := bind_eq_ok_iff.mp hstep
    cases hnext
    exact .cut haddresses
  | paste spot adjust =>
    obtain ⟨target, htarget, hnext⟩ := hplace hstep
    split at hnext
    case h_1 next' count hpaste =>
      cases hnext
      obtain ⟨kind, anchor, cell, others, hclipboard, rfl⟩ := paste?_eq_some hpaste
      exact .paste htarget hclipboard
    case h_2 => cases hnext
  | importBytes bytes =>
    obtain ⟨⟨next', count⟩, himport, hnext⟩ := bind_eq_ok_iff.mp hstep
    cases hnext
    obtain ⟨cells, hread, rfl⟩ := importCsv_eq_ok (mapError_eq_ok_iff.mp himport)
    exact .importBytes hread
  | importFile path files =>
    obtain ⟨⟨next', count⟩, himport, hnext⟩ := bind_eq_ok_iff.mp hstep
    cases hnext
    obtain ⟨content, hcontent, himport⟩ := bind_eq_ok_iff.mp himport
    obtain ⟨cells, hread, rfl⟩ := importCsv_eq_ok (mapError_eq_ok_iff.mp himport)
    exact .importFile (mapError_eq_ok_iff.mp hcontent) hread
  | exportFile path files =>
    obtain ⟨written, -, hnext⟩ := bind_eq_ok_iff.mp hstep
    cases hnext
    exact .look rfl
  | chart range =>
    obtain ⟨r, -, hnext⟩ := bind_eq_ok_iff.mp hstep
    cases hnext
    exact .look rfl
  | setLimits given =>
    cases given with
    | none =>
      cases hstep
      exact .setLimits rfl
    | some given =>
      simp only [tryStep] at hstep
      split at hstep
      case h_1 limits hlimits =>
        cases hstep
        exact .setLimits (by rw [newLimits, hlimits])
      case h_2 => cases hstep
  | evaluate | exportText | json =>
    cases hstep
    exact .look rfl

/-- A step that succeeds makes the change of its request. -/
theorem changes_of_step {request : Step} {outcome : Outcome}
    (h : (s.step request).2 = .ok outcome) : s.Changes request (s.step request).1 := by
  rw [step_eq_tryStep] at h ⊢
  cases hwhole : s.tryStep request with
  | error e =>
    rw [hwhole] at h
    cases h
  | ok done => exact changes_of_tryStep hwhole

/-- A step makes the change of its request or none. -/
lemma step_cases (s : Sheet) (request : Step) :
    s.Changes request (s.step request).1 ∨ (s.step request).1 = s := by
  cases houtcome : (s.step request).2 with
  | ok outcome => exact .inl (changes_of_step houtcome)
  | error e =>
    rw [step_eq_tryStep] at houtcome ⊢
    cases hwhole : s.tryStep request with
    | error e' => exact .inr rfl
    | ok done =>
      rw [hwhole] at houtcome
      cases houtcome

end Sheet

end Spreadsheet
