import Spreadsheet.Proofs.Outcomes
import Spreadsheet.Sheet.Step

/-!
# Steps are carried out as a whole or not at all

A request changes the sheet in place, so that what it changed before a failure would stay.  The
main result, `Sheet.step_of_error`, says that nothing is ever left behind: a request that fails, on
any sheet, leaves the cells, the clipboard and the limits as they were.  It also says for which
reasons a request fails (`Sheet.Refuses`).

`Sheet.tryStep` says what a request does as a whole, giving either the sheet afterwards or an error
and no sheet.  That the editing in place carries it out (`Sheet.CarriesOut`) is shown along the
parts of an editing: checks stand in front of the first change (`Sheet.CarriesOut.check`), and
behind the last change nothing can fail (`Sheet.CarriesOut.andThen`).
-/

namespace Spreadsheet

namespace Sheet

/-- The sheet after a request was carried out as a whole, and the outcome, unless it fails. -/
def tryStep (s : Sheet) : Step → Except SheetError (Sheet × Outcome)
  | .commit spot input => do
    let (next, outcome) := s.commit (← place spot) input
    return (next, evaluated outcome)
  | .resubmit spot => do
    let (next, outcome) := s.resubmit (← place spot)
    return (next, evaluated outcome)
  | .evaluate formula => return (s, .evaluation (s.evaluate formula))
  | .display spot => return (s, .text (s.display (← place spot)))
  | .formula spot => do
    match s.formula? (← place spot) with
    | some formula => return (s, .text formula)
    | none => return (s, .noText)
  | .cell spot => return (s, .cell (s.cell? (← place spot)))
  | .clear spot => do
    let a ← place spot
    return (s.remove a, .cell (s.cell? a))
  | .restyle spot patch => return (s.restyle (← place spot) patch, .nothing)
  | .copy places => do
    let addresses ← places.mapM place
    return (s.copy addresses, .count (s.capture addresses).length)
  | .cut places => do
    let addresses ← places.mapM place
    return (s.cut addresses, .count (s.capture addresses).length)
  | .paste spot adjust => do
    match s.paste? (← place spot) adjust with
    | some (next, count) => return (next, .count count)
    | none => throw .emptyClipboard
  | .importBytes bytes => do
    let (next, count) ← (s.importCsv bytes).mapError .csv
    return (next, .count count)
  | .exportText => return (s, .text s.exportCsv)
  | .importFile path files => do
    let (next, count) ← s.importFile files (within path)
    return (next, .count count)
  | .exportFile path files => do
    let _ ← s.exportFile files (within path)
    return (s, .text s.exportCsv)
  | .chart range => return (s, .points (Series.extract s.snapshot (← block range)))
  | .setLimits none => return ({ s with limits := {} }, .limits {})
  | .setLimits (some given) =>
    match Limits.ofJson? given with
    | some limits => return ({ s with limits }, .limits limits)
    | none => throw .badLimits
  | .json => return (s, .text s.json)

/-! ## Editing in place -/

variable {α β : Type} {s : Sheet}

/-- On the sheet, the editing does the whole of what is asked for, or fails and changes nothing. -/
def CarriesOut (s : Sheet) (editing : Editing α) (whole : Except SheetError (Sheet × α)) : Prop :=
  editing.run.run s = match whole with
    | .ok (next, a) => (.ok a, next)
    | .error e => (.error e, s)

/-- A check in front changes nothing. -/
lemma CarriesOut.check {c : Except SheetError α} {editing : α → Editing β}
    {whole : α → Except SheetError (Sheet × β)}
    (h : ∀ a, s.CarriesOut (editing a) (whole a)) :
    s.CarriesOut (liftM c >>= editing) (c >>= whole) := by
  cases c with
  | error e => rfl
  | ok a => exact h a

/-- What is made of the outcome behind the last change does not fail. -/
lemma CarriesOut.andThen {editing : Editing α} {whole : Except SheetError (Sheet × α)}
    (h : s.CarriesOut editing whole) (f : α → β) :
    s.CarriesOut (do return f (← editing)) (do
      let (next, a) ← whole
      return (next, f a)) := by
  unfold CarriesOut at *
  have hrun : (do return f (← editing) : Editing β).run.run s =
      match editing.run.run s with
      | (.ok a, next) => (.ok (f a), next)
      | (.error e, next) => (.error e, next) := by
    rw [ExceptT.run_bind, StateT.run_bind]
    generalize editing.run.run s = done
    obtain ⟨result, next⟩ := done
    cases result with
    | error e => rfl
    | ok a => rfl
  rw [hrun, h]
  cases whole with
  | error e => rfl
  | ok done => rfl

/-! ## Requests -/

/-- An import reads all bytes before it stores the first cell. -/
lemma carriesOut_importInPlace (s : Sheet) (bytes : List UInt8) :
    s.CarriesOut (importInPlace bytes) ((s.importCsv bytes).mapError .csv) := by
  unfold importInPlace importCsv
  cases Csv.read bytes with
  | error e => rfl
  | ok cells => rfl

/-- An import from a file looks up the file before anything is stored. -/
lemma carriesOut_importFileInPlace (s : Sheet) (files : Files) (path : String) :
    s.CarriesOut (importFileInPlace files path) (s.importFile files path) :=
  .check fun content => carriesOut_importInPlace s content.data.toList

/-- An empty clipboard is noticed before anything is pasted, also when it was filled by cutting. -/
lemma carriesOut_pasteInPlace (s : Sheet) (target : Address) (adjust : Bool) :
    s.CarriesOut (pasteInPlace target adjust) (match s.paste? target adjust with
      | some pasted => .ok pasted
      | none => .error .emptyClipboard) := by
  obtain ⟨cells, clipboard, limits⟩ := s
  match clipboard with
  | none => rfl
  | some ⟨_, []⟩ => rfl
  | some ⟨.copy, (anchor, cell) :: others⟩ => rfl
  | some ⟨.cut, (anchor, cell) :: others⟩ => rfl

/-- Whatever is asked for, the sheet is edited as a whole or left as it was. -/
lemma carriesOut_perform (s : Sheet) (request : Step) :
    s.CarriesOut (perform request) (s.tryStep request) := by
  cases request with
  | evaluate | exportText | json => rfl
  | commit | resubmit | display | cell | clear | restyle | chart => exact .check fun _ => rfl
  | copy | cut => exact .check fun _ => rfl
  | formula spot =>
    refine .check fun a => ?_
    have hread : s.CarriesOut (do return written ((← get).formula? a))
        (.ok (s, written (s.formula? a))) :=
      rfl
    cases hformula : s.formula? a with
    | none =>
      rw [hformula] at hread
      exact hread
    | some f =>
      rw [hformula] at hread
      exact hread
  | paste spot adjust =>
    refine .check fun target => ?_
    have hpaste := (carriesOut_pasteInPlace s target adjust).andThen Outcome.count
    cases hpasted : s.paste? target adjust with
    | none =>
      rw [hpasted] at hpaste
      exact hpaste
    | some pasted =>
      rw [hpasted] at hpaste
      exact hpaste
  | importBytes bytes => exact (carriesOut_importInPlace s bytes).andThen Outcome.count
  | importFile path files =>
    exact (carriesOut_importFileInPlace s files (within path)).andThen Outcome.count
  | exportFile path files => exact .check (c := s.exportFile files (within path)) fun _ => rfl
  | setLimits given =>
    cases given with
    | none => rfl
    | some given =>
      simp only [perform, newLimits, tryStep]
      cases Limits.ofJson? given with
      | none => rfl
      | some limits => rfl

/-- A step does the whole of what is asked for, or fails and leaves the sheet as it was. -/
lemma step_eq_tryStep (s : Sheet) (request : Step) : s.step request = match s.tryStep request with
    | .ok (next, outcome) => (next, .ok outcome)
    | .error e => (s, .error e) := by
  have h := carriesOut_perform s request
  unfold CarriesOut at h
  unfold step
  rw [h]
  cases s.tryStep request with
  | error e => rfl
  | ok done => rfl

/-! ## Failures -/

/-- The request cannot be carried out on the sheet, for the reason given. -/
def Refuses (s : Sheet) (reason : SheetError) : Step → Prop
  | .commit spot _ | .resubmit spot | .display spot | .formula spot | .cell spot | .clear spot
  | .restyle spot _ => Address.ofText? spot = none ∧ reason = .badAddress spot
  | .copy spots | .cut spots => ∃ spot,
      spots.find? (fun t => (Address.ofText? t).isNone) = some spot ∧ reason = .badAddress spot
  | .paste spot _ => Address.ofText? spot = none ∧ reason = .badAddress spot ∨
      Address.ofText? spot ≠ none ∧ (∀ clipboard ∈ s.clipboard, clipboard.cells = []) ∧
        reason = .emptyClipboard
  | .importBytes bytes => ∃ e, Csv.read bytes = .error e ∧ reason = .csv e
  | .importFile path files => (∃ fault, files.read (within path) = .error fault ∧
      reason = .file fault) ∨ ∃ content e, files.read (within path) = .ok content ∧
        Csv.read content.data.toList = .error e ∧ reason = .csv e
  | .exportFile path files => ∃ fault,
      files.write (within path) s.exportCsv.toUTF8 = .error fault ∧ reason = .file fault
  | .chart range => Range.ofText? range = none ∧ reason = .badRange range
  | .setLimits given => (∃ value ∈ given, Limits.ofJson? value = none) ∧ reason = .badLimits
  | .evaluate _ | .exportText | .json => False

/-- An address is found exactly where its text is given. -/
lemma place_eq_ok_iff {spot : String} {a : Address} :
    place spot = .ok a ↔ Address.ofText? spot = some a := by
  unfold place
  cases Address.ofText? spot <;> simp

/-- A text that names no address is refused as such, and shown in the error. -/
lemma place_eq_error_iff {spot : String} {e : SheetError} :
    place spot = .error e ↔ Address.ofText? spot = none ∧ e = .badAddress spot := by
  unfold place
  cases Address.ofText? spot with
  | none => simp [eq_comm]
  | some a => simp

/-- A text that names no range is refused as such, and shown in the error. -/
lemma block_eq_error_iff {range : String} {e : SheetError} :
    block range = .error e ↔ Range.ofText? range = none ∧ e = .badRange range := by
  unfold block
  cases Range.ofText? range with
  | none => simp [eq_comm]
  | some r => simp

/-- Placing a list of texts fails just when one of them names no address. The first such text is the
one reported. -/
lemma mapM_place_eq_error_iff {spots : List String} {e : SheetError} :
    spots.mapM place = .error e ↔ ∃ spot,
      spots.find? (fun t => (Address.ofText? t).isNone) = some spot ∧ e = .badAddress spot := by
  induction spots with
  | nil => simp [pure, Except.pure]
  | cons spot spots ih =>
    rw [List.mapM_cons, List.find?_cons, place]
    cases Address.ofText? spot with
    | none => simp [bind, Except.bind, eq_comm]
    | some a => exact (bind_eq_error_iff_left fun _ => ⟨_, rfl⟩).trans ih

/-- An import of bytes is refused exactly when the bytes cannot be read, for the reason that the
reading gives. -/
lemma importCsv_eq_error_iff {bytes : List UInt8} {e : Csv.Error} :
    s.importCsv bytes = .error e ↔ Csv.read bytes = .error e :=
  bind_eq_error_iff_left fun _ => ⟨_, rfl⟩

/-- An import from a file is refused when the file cannot be read, or when its bytes cannot. -/
lemma importFile_eq_error_iff {files : Files} {path : String} {e : SheetError} :
    s.importFile files path = .error e ↔ (∃ fault, files.read path = .error fault ∧
      e = .file fault) ∨ ∃ content e', files.read path = .ok content ∧
        Csv.read content.data.toList = .error e' ∧ e = .csv e' := by
  unfold importFile
  simp only [bind_eq_error_iff, mapError_eq_error_iff, mapError_eq_ok_iff, importCsv_eq_error_iff,
    exists_and_left]

/-- There is nothing to paste when the clipboard was never filled or was filled with no cells. -/
lemma paste?_eq_none_iff {target : Address} {adjust : Bool} :
    s.paste? target adjust = none ↔ ∀ clipboard ∈ s.clipboard, clipboard.cells = [] := by
  obtain ⟨cells, clipboard, limits⟩ := s
  match clipboard with
  | none => simp [paste?]
  | some ⟨_, []⟩ => simp [paste?]
  | some ⟨.copy, (anchor, cell) :: others⟩ => simp [paste?]
  | some ⟨.cut, (anchor, cell) :: others⟩ => simp [paste?]

/-- A request fails for one of the reasons listed, and whenever there is one. -/
lemma tryStep_eq_error_iff {request : Step} {e : SheetError} :
    s.tryStep request = .error e ↔ s.Refuses e request := by
  cases request with
  | evaluate | exportText | json =>
    refine iff_of_false ?_ id
    rintro ⟨⟩
  | commit | resubmit | display | cell | clear | restyle =>
    exact (bind_eq_error_iff_left fun _ => ⟨_, rfl⟩).trans place_eq_error_iff
  | formula spot =>
    refine (bind_eq_error_iff_left fun a => ?_).trans place_eq_error_iff
    cases s.formula? a with
    | none => exact ⟨_, rfl⟩
    | some f => exact ⟨_, rfl⟩
  | copy | cut => exact (bind_eq_error_iff_left fun _ => ⟨_, rfl⟩).trans mapM_place_eq_error_iff
  | paste spot adjust =>
    have hpaste : ∀ target, (match s.paste? target adjust with
        | some (next, count) => .ok (next, .count count)
        | none => .error .emptyClipboard : Except SheetError (Sheet × Outcome)) = .error e ↔
          (∀ clipboard ∈ s.clipboard, clipboard.cells = []) ∧ e = .emptyClipboard := by
      intro target
      rw [← @paste?_eq_none_iff s target adjust]
      cases s.paste? target adjust with
      | none => simp [eq_comm]
      | some pasted => simp
    refine bind_eq_error_iff.trans (or_congr place_eq_error_iff ?_)
    constructor
    · rintro ⟨target, htarget, h⟩
      rw [place_eq_ok_iff] at htarget
      exact ⟨by simp [htarget], (hpaste target).mp h⟩
    · rintro ⟨hspot, h⟩
      obtain ⟨target, htarget⟩ := Option.ne_none_iff_exists'.mp hspot
      exact ⟨target, place_eq_ok_iff.mpr htarget, (hpaste target).mpr h⟩
  | importBytes bytes =>
    refine (bind_eq_error_iff_left fun _ => ⟨_, rfl⟩).trans ?_
    simp only [mapError_eq_error_iff, importCsv_eq_error_iff]
    rfl
  | importFile path files =>
    exact (bind_eq_error_iff_left fun _ => ⟨_, rfl⟩).trans importFile_eq_error_iff
  | exportFile path files =>
    exact (bind_eq_error_iff_left fun _ => ⟨_, rfl⟩).trans mapError_eq_error_iff
  | chart range => exact (bind_eq_error_iff_left fun _ => ⟨_, rfl⟩).trans block_eq_error_iff
  | setLimits given =>
    cases given with
    | none => simp [tryStep, Refuses, pure, Except.pure]
    | some given =>
      simp only [tryStep, Refuses, Option.mem_some_iff, exists_eq_left']
      cases Limits.ofJson? given with
      | none => exact ⟨fun h => ⟨rfl, (Except.error.inj h).symm⟩, fun h => congrArg _ h.2.symm⟩
      | some limits => simp [pure, Except.pure]

/-- A step that fails does so for a reason of its request, and leaves the cells, the clipboard and
the limits as they were. -/
theorem step_of_error {s : Sheet} {request : Step} {e : SheetError}
    (h : (s.step request).2 = .error e) : s.Refuses e request ∧ (s.step request).1 = s := by
  rw [step_eq_tryStep] at h ⊢
  cases hwhole : s.tryStep request with
  | error e' =>
    rw [hwhole] at h
    cases h
    exact ⟨tryStep_eq_error_iff.mp hwhole, rfl⟩
  | ok done =>
    rw [hwhole] at h
    cases h

/-- A bad field keeps the good record above it from being imported, and a cut cell stays on the
clipboard. -/
theorem step_of_error_badField :
    let s := ((({} : Sheet).step (.commit "A1" "=1+1")).1.step (.cut ["A1"])).1
    let request := Step.importBytes [97, 44, 98, 10, 99, 44, 0xFF]
    (s.step request).2 = .error (.csv ⟨1, 2, 4, 1, 0⟩) ∧ (s.step request).1 = s := by
  intro s request
  have hread : Csv.read [97, 44, 98, 10, 99, 44, 0xFF] = .error ⟨1, 2, 4, 1, 0⟩ := by
    decide +kernel
  have hwhole : s.tryStep request = .error (.csv ⟨1, 2, 4, 1, 0⟩) :=
    tryStep_eq_error_iff.mpr ⟨_, hread, rfl⟩
  have herror : (s.step request).2 = .error (.csv ⟨1, 2, 4, 1, 0⟩) := by
    rw [step_eq_tryStep, hwhole]
  exact ⟨herror, (step_of_error herror).2⟩

end Sheet

end Spreadsheet
